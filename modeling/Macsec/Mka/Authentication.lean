import Macsec.Mka.Reception

/-!
# Frames that do not authenticate

A received frame passes the checks of its headers, the filter for the
participant's own frames and the verification of its integrity check value
before it may touch the protocol state.  A frame that fails one of them leaves
a trace only in the records of the last verification.
-/

namespace Macsec

/-- The header of an EAPOL-MKA frame without a body. -/
def headerFrame : Bytes :=
  List.replicate 12 0 ++ [0x88, 0x8E, 0x03, 0x05, 0x00, 0x00]

namespace Mka

variable {aes : BlockCipher} {ctx : Ctx}

/-! ## Verification -/

/-- The number of octets that the integrity check value of a frame covers. -/
def Basic.micLen (basic : Basic) : Nat :=
  14 + 4 + basic.eapolLen - icvLen

/-- Whether a frame carries the CMAC of its covered octets under the ICK. -/
def CarriesMic (aes : BlockCipher) (ctx : Ctx) (frame : Bytes)
    (basic : Basic) : Prop :=
  MkaCrypto.cmac aes ctx.crypto.keys.ick (frame.slice 0 basic.micLen).1 =
    .ok basic.icv

/-- The verdict of the verification does not depend on the last one. -/
theorem verifyIcv_lastIcvValid (ctx : Ctx) (frame : Bytes) (basic : Basic)
    (lastIcvValid : Bool) :
    (verifyIcv aes { ctx with lastIcvValid := lastIcvValid } frame basic).1 =
      (verifyIcv aes ctx frame basic).1 := by
  unfold verifyIcv
  dsimp only
  split_ifs
  all_goals rfl

/-- With verification on, authentication is verification. -/
theorem authenticate_fst {ctx : Ctx} (verifying : ctx.verifyIcv = true)
    (frame : Bytes) (basic : Basic) :
    (authenticate aes ctx frame basic).1 =
      (verifyIcv aes ctx frame basic).1 := by
  rw [← verifyIcv_lastIcvValid ctx frame basic false]
  unfold authenticate
  dsimp only
  rw [if_pos verifying]
  rcases verifyIcv aes { ctx with lastIcvValid := false } frame basic with
    ⟨ret, verified⟩
  cases ret with
  | ok => rfl
  | param | buffer | crypto | state | replay | unsupported | auth | timeout
  | notReady | busy => rfl

/-- Under derived keys a calculated MIC is the CMAC under the ICK. -/
theorem calcMic_eq {crypto : MkaCrypto.Ctx} (keyed : crypto.Keyed)
    (pdu : Bytes) :
    MkaCrypto.calcMic aes crypto pdu =
      MkaCrypto.cmac aes crypto.keys.ick pdu := by
  rw [MkaCrypto.calcMic, if_neg (by rw [keyed.ick]; decide)]

/-- A MIC verifies if and only if it is the CMAC under the ICK. -/
theorem verifyMic_eq_ok_iff {crypto : MkaCrypto.Ctx} (keyed : crypto.Keyed)
    (pdu : Bytes) (mic : Octets 16) :
    MkaCrypto.verifyMic aes crypto pdu mic = .ok ↔
      MkaCrypto.cmac aes crypto.keys.ick pdu = .ok mic := by
  have size : MkaCrypto.keyLenValid crypto.keys.ick.length = true := by
    have ready := keyed.ick
    simp only [MkaCrypto.ickReady, Bool.and_eq_true] at ready
    exact ready.2
  obtain ⟨calculated, result⟩ := MkaCrypto.exists_cmac aes size pdu
  rw [MkaCrypto.verifyMic, calcMic_eq keyed, result]
  dsimp only
  rw [Except.ok.injEq]
  split
  next differ =>
      refine ⟨fun auth => Err.noConfusion auth, fun same => ?_⟩
      exact absurd ((compare_octets_eq_zero calculated mic).mpr same) differ
  next same =>
      rw [not_not, compare_octets_eq_zero] at same
      exact ⟨fun _ => same, fun _ => rfl⟩

/-- A parsed frame has room for its integrity check value. -/
theorem length_of_parseBasic {frame : Bytes} {basic : Basic}
    (parsed : parseBasic frame = .ok basic) :
    basic.micLen + icvLen ≤ frame.length := by
  rcases parseBasic_cases frame with ⟨ret, -, -, failed⟩ | ⟨fits, succeeded⟩
  · rw [failed] at parsed
    cases parsed
  · rw [succeeded] at parsed
    cases parsed
    exact fits

/-- A parsed frame verifies if and only if it fits the work buffer and carries
the CMAC of its covered octets. -/
theorem verifyIcv_eq_ok_iff (keyed : ctx.crypto.Keyed) {frame : Bytes}
    {basic : Basic} (parsed : parseBasic frame = .ok basic) :
    (verifyIcv aes ctx frame basic).1 = .ok ↔
      basic.micLen ≤ maxFrameLen ∧ CarriesMic aes ctx frame basic := by
  have valid : ctx.crypto.keys.valid = true := by
    have ready := keyed.ick
    simp only [MkaCrypto.ickReady, Bool.and_eq_true] at ready
    exact ready.1
  have fits := length_of_parseBasic parsed
  unfold verifyIcv CarriesMic
  dsimp only
  rw [if_neg (by rw [valid]; decide),
    if_neg (by rw [Basic.micLen] at fits; omega)]
  split
  next long =>
      refine ⟨fun refused => Err.noConfusion refused, fun short => ?_⟩
      exact absurd short.1 (Nat.not_le.mpr long)
  next short =>
      rw [verifyMic_eq_ok_iff keyed]
      exact ⟨fun carries => ⟨Nat.not_lt.mp short, carries⟩, And.right⟩

/-! ## Unauthentic frames -/

/-- A frame that is no EAPOL-MKA frame, has no well-formed Basic Parameter Set,
carries an identity of the participant itself, exceeds the work buffer of the
verification, or does not carry the CMAC of its covered octets. -/
def Unauthentic (aes : BlockCipher) (ctx : Ctx) (frame : Bytes) : Prop :=
  isEapolMka frame = false ∨
    (∃ ret, parseBasic frame = .error ret) ∨
    ∃ basic, parseBasic frame = .ok basic ∧
      (isOwnFrame ctx.toParticipant basic = true ∨
        maxFrameLen < basic.micLen ∨ ¬CarriesMic aes ctx frame basic)

/-- The frames that are accepted are those that are not unauthentic. -/
theorem accepted_iff (keyed : ctx.crypto.Keyed)
    (verifying : ctx.verifyIcv = true) (frame : Bytes) :
    (∃ pdu, classify aes ctx frame = .accepted pdu) ↔
      ¬Unauthentic aes ctx frame := by
  unfold classify Unauthentic
  cases isEapolMka frame with
  | false => simp
  | true =>
      rw [if_neg (by decide)]
      rcases parsed : parseBasic frame with ret | basic
      · simp
      · dsimp only
        rw [authenticate_fst verifying]
        have verified := @verifyIcv_eq_ok_iff aes ctx keyed frame basic parsed
        cases own : isOwnFrame ctx.toParticipant basic with
        | true => simp [own]
        | false =>
            rw [if_neg Bool.false_ne_true]
            revert verified
            rcases verifyIcv aes ctx frame basic with ⟨ret, _⟩
            intro verified
            cases ret with
            | ok =>
                have genuine := verified.mp rfl
                simp [own, genuine.1, genuine.2]
            | param | buffer | crypto | state | replay | unsupported | auth
            | timeout | notReady | busy =>
                have forged := mt verified.mpr Err.noConfusion
                rw [not_and_or, Nat.not_le] at forged
                simp [own, forged]

/-- A frame that is not accepted leaves a trace only in the records of the last
verification. -/
theorem input_of_not_accepted {frame : Bytes}
    (refused : ∀ pdu, classify aes ctx frame ≠ .accepted pdu)
    (rnd : Octets 16) (nowMs : UInt32) :
    ∃ lastIcvValid micWork,
      (input aes ctx frame rnd nowMs).2 =
        { ctx with lastIcvValid := lastIcvValid, micWork := micWork } := by
  revert refused
  unfold classify input
  cases isEapolMka frame with
  | false => exact fun _ => ⟨ctx.lastIcvValid, ctx.micWork, rfl⟩
  | true =>
      rcases parseBasic frame with ret | basic
      · exact fun _ => ⟨ctx.lastIcvValid, ctx.micWork, rfl⟩
      · dsimp only
        cases isOwnFrame ctx.toParticipant basic with
        | true => exact fun _ => ⟨ctx.lastIcvValid, ctx.micWork, rfl⟩
        | false =>
            have records := authenticate_records aes ctx frame basic
            revert records
            rcases authenticate aes ctx frame basic with ⟨ret, verified⟩
            cases ret with
            | ok => exact fun _ refused => absurd rfl (refused _)
            | param | buffer | crypto | state | replay | unsupported | auth
            | timeout | notReady | busy => exact fun records _ => records

/-! ## Every reachable participant -/

/-- No call touches the key material. -/
theorem perform_keys (call : Call) :
    (perform aes ctx call).1.crypto = ctx.crypto ∧
      (perform aes ctx call).1.verifyIcv = ctx.verifyIcv := by
  cases call with
  | input frame rnd nowMs => exact input_keys aes ctx frame rnd nowMs
  | buildTxFrame rnd frameMaxLen =>
      change (buildTxFrame aes ctx rnd frameMaxLen).2.1.crypto = _ ∧
        (buildTxFrame aes ctx rnd frameMaxLen).2.1.verifyIcv = _
      rcases buildTxFrame_participant aes ctx rnd frameMaxLen with
        same | generated
      · rw [same]
        exact ⟨rfl, rfl⟩
      · rw [generated]
        exact ⟨rfl, rfl⟩
  | tick nowMs => exact ⟨rfl, rfl⟩
  | takeEvents => exact ⟨rfl, rfl⟩
  | notifyTxSuccess txMeta nowMs => exact ⟨rfl, rfl⟩
  | notifyTxFailure txMeta => exact ⟨rfl, rfl⟩
  | takeSakForInstall => exact ⟨rfl, rfl⟩
  | notifySakInstalled keyNumber an directions lowestPn => exact ⟨rfl, rfl⟩
  | notifySakRetired keyNumber an => exact ⟨rfl, rfl⟩

/-- Every reachable participant has its keys and verifies under them. -/
theorem Reachable.keyed (reachable : Reachable aes ctx) :
    ctx.crypto.Keyed ∧ ctx.verifyIcv = true := by
  obtain ⟨cak, ckn, localMac, portId, priority, interval, mi, start,
    initialised, run⟩ := reachable
  refine run.invariant
    (fun ctx => ctx.crypto.Keyed ∧ ctx.verifyIcv = true) ?_ ?_
  · obtain ⟨same, keyed⟩ := init_ok initialised
    exact ⟨keyed, by rw [same]; rfl⟩
  · intro ctx call ⟨keyed, verifying⟩
    obtain ⟨sameKeys, sameFlag⟩ := @perform_keys aes ctx call
    exact ⟨sameKeys ▸ keyed, sameFlag ▸ verifying⟩

/-- An unauthentic frame changes nothing of a reachable participant but the
records of the last verification. -/
theorem unauthentic_frame_leaves_participant (reachable : Reachable aes ctx)
    {frame : Bytes} (bad : Unauthentic aes ctx frame) (rnd : Octets 16)
    (nowMs : UInt32) :
    ∃ lastIcvValid micWork,
      (input aes ctx frame rnd nowMs).2 =
        { ctx with lastIcvValid := lastIcvValid, micWork := micWork } := by
  obtain ⟨keyed, verifying⟩ := reachable.keyed
  refine input_of_not_accepted (fun pdu accepted => ?_) rnd nowMs
  exact (accepted_iff keyed verifying frame).mp ⟨pdu, accepted⟩ bad

/-- A bare header is such a frame. -/
theorem headerFrame_leaves_participant :
    let ctx :=
      initialCtx BlockCipher.null (List.replicate 16 1) [2] (Octets.zero 6) 1
        16 2000 (Octets.zero 12)
    ∃ lastIcvValid micWork,
      (input BlockCipher.null ctx headerFrame (Octets.zero 16) 5).2 =
        { ctx with lastIcvValid := lastIcvValid, micWork := micWork } :=
  unauthentic_frame_leaves_participant
    (reachable_initialCtx BlockCipher.null rfl (by decide) (by decide) _ _ _ _
      _)
    (Or.inr (Or.inl ⟨.buffer, rfl⟩)) _ _

end Mka

end Macsec
