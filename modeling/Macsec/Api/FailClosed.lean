import Macsec.Api.Steady

/-!
# The data path fails closed

What reaches the stack was opened under a valid association by a secured
context, and what reaches the wire was sealed under the transmit association of
a secured context.  Every other call reports an empty frame.
-/

namespace Macsec

namespace FrameCrypto

variable {aes : BlockCipher} {ctx : Ctx}

/-- A frame that is not opened yields no plaintext. -/
theorem decrypt_len_of_refused {secure plain : Bytes}
    (refused : (decrypt aes ctx secure plain).1 ≠ .ok) :
    (decrypt aes ctx secure plain).2.2.2 = 0 := by
  revert refused
  unfold decrypt
  cases decryptCheck ctx.toSaTable secure plain.length with
  | ok =>
      dsimp only
      rcases gcmSetKey aes ctx (ctx.rxSak (frameAn secure)).key with
        ⟨ret, keyed⟩
      cases ret with
      | ok =>
          dsimp only
          split
          next => exact fun _ => rfl
          next => exact fun refused => absurd rfl refused
      | param | buffer | crypto | state | replay | unsupported | auth
      | timeout | notReady | busy => exact fun _ => rfl
  | param | buffer | crypto | state | replay | unsupported | auth | timeout
  | notReady | busy => exact fun _ => rfl

end FrameCrypto

variable {aes : BlockCipher} {ctx : Ctx}

/-! ## Receiving -/

/-- The context was secured, the frame is a protected frame, and the answer is
what the frame opens to under a valid association, behind its addresses. -/
structure Opened (aes : BlockCipher) (ctx : Ctx) (frame : Bytes)
    (reply : Reply) : Prop where
  ok : reply.ret = .ok
  passed : reply.passToStack = true
  secured : ctx.state = .secured
  isMacsec : FrameCrypto.isMacsec frame = true
  notMka : Mka.isEapolMka frame = false
  valid : (ctx.frameCrypto.rxSak (FrameCrypto.frameAn frame)).valid = true
  opens : ∃ payload,
    FrameCrypto.Opens aes
      (ctx.frameCrypto.rxSak (FrameCrypto.frameAn frame)).key frame payload ∧
    reply.frame = (frame.slice 0 12).1 ++ payload

/-- Whatever a context passes to the stack was opened; every other frame is
answered by an empty one. -/
theorem input_opened (cached : ctx.frameCrypto.Cached aes)
    (mode : ctx.cfg.mode ≠ .disabled) (frame plain : Bytes)
    (rnd : Octets 16) :
    (input aes ctx frame plain rnd).2 =
        Reply.of (input aes ctx frame plain rnd).2.ret ∨
      Opened aes ctx frame (input aes ctx frame plain rnd).2 := by
  rcases @input_cases aes _ mode frame plain rnd with
    ⟨-, result⟩ | ⟨notMka, secured, result⟩ | ⟨-, ret, -, result⟩
  · rw [result]
    exact Or.inl rfl
  · rw [result]
    obtain ⟨-, returned, passed, delivered⟩ :=
      @inputSecure_cases aes ctx secured frame plain
    by_cases ok : (FrameCrypto.decrypt aes ctx.frameCrypto frame plain).1 = .ok
    · have checked := FrameCrypto.decryptCheck_of_ok ok
      obtain ⟨ready, -, -⟩ := FrameCrypto.decryptCheck_ok checked
      obtain ⟨payload, opens, opened⟩ := FrameCrypto.decrypt_ok cached ok
      simp only [FrameCrypto.readyRx, Bool.and_eq_true] at ready
      exact Or.inr ⟨returned.trans ok, passed.mpr ok, secured,
        FrameCrypto.isMacsec_of_decryptCheck_ok checked, notMka, ready.1.1,
        payload, opens, (delivered ok).trans opened⟩
    · refine Or.inl ?_
      revert ok
      unfold inputSecure
      rw [if_neg (not_not_intro secured)]
      rcases FrameCrypto.decrypt aes ctx.frameCrypto frame plain with
        ⟨ret, frameCrypto, opened, len⟩
      intro failed
      cases ret with
      | ok => exact absurd rfl failed
      | param | buffer | crypto | state | replay | unsupported | auth
      | timeout | notReady | busy => rfl
  · rw [result]
    exact Or.inl rfl

/-- A frame that is passed to the stack was opened. -/
theorem opened_of_passed (cached : ctx.frameCrypto.Cached aes)
    (mode : ctx.cfg.mode ≠ .disabled) {frame plain : Bytes} {rnd : Octets 16}
    (passed : (input aes ctx frame plain rnd).2.passToStack = true) :
    Opened aes ctx frame (input aes ctx frame plain rnd).2 := by
  rcases input_opened cached mode frame plain rnd with silent | opened
  · rw [silent] at passed
    exact Bool.noConfusion passed
  · exact opened

/-! ## Sending -/

/-- The context was secured, and the answer is what the given frame is sealed to
under the transmit association. -/
structure Sent (aes : BlockCipher) (ctx : Ctx) (plain : Bytes)
    (reply : Reply) : Prop where
  ok : reply.ret = .ok
  secured : ctx.state = .secured
  valid : ctx.frameCrypto.txSak.valid = true
  isSealed : reply.frame =
    FrameCrypto.sealFrame aes ctx.frameCrypto.txSak.key
      ctx.frameCrypto.txSak.an ctx.frameCrypto.txSak.nextPn
      ctx.frameCrypto.localSci plain

/-- Whatever a context puts on the wire was sealed; every other frame is
answered by an empty one. -/
theorem output_sent (cached : ctx.frameCrypto.Cached aes)
    (mode : ctx.cfg.mode ≠ .disabled) (plain : Bytes) (txMaxLen : Nat) :
    (output aes ctx plain txMaxLen).2 =
        Reply.of (output aes ctx plain txMaxLen).2.ret ∨
      Sent aes ctx plain (output aes ctx plain txMaxLen).2 := by
  rcases @output_cases aes _ mode plain txMaxLen with
    ⟨ret, -, result⟩ | ⟨secured, result⟩
  · rw [result]
    exact Or.inl rfl
  · rw [result]
    rcases FrameCrypto.encrypt_cases aes ctx.frameCrypto plain txMaxLen with
      ⟨-, empty, -⟩ | ⟨ok, valid, -⟩
    · refine Or.inl ?_
      rw [empty]
      rfl
    · exact Or.inr ⟨ok, secured, valid,
        (FrameCrypto.encrypt_ok cached ok).2.2⟩

/-! ## Every reachable context -/

/-- In every reachable context with protection, a frame that macsec_input passes
on was opened and a frame that macsec_output yields was sealed; every other
answer has no frame, and a frame that is not opened yields no plaintext. -/
theorem data_path_fails_closed {mode : Mode}
    (isProtected : mode = .staticSak ∨ mode = .mkaPsk)
    (reachable : Reachable aes mode ctx) :
    (∀ frame plain rnd,
      (input aes ctx frame plain rnd).2 =
          Reply.of (input aes ctx frame plain rnd).2.ret ∨
        Opened aes ctx frame (input aes ctx frame plain rnd).2) ∧
    (∀ plain txMaxLen,
      (output aes ctx plain txMaxLen).2 =
          Reply.of (output aes ctx plain txMaxLen).2.ret ∨
        Sent aes ctx plain (output aes ctx plain txMaxLen).2) ∧
    ∀ secure plain,
      (FrameCrypto.decrypt aes ctx.frameCrypto secure plain).1 ≠ .ok →
        (FrameCrypto.decrypt aes ctx.frameCrypto secure plain).2.2.2 = 0 := by
  have enabled : mode ≠ .disabled := by
    rcases isProtected with rfl | rfl <;> exact Mode.noConfusion
  obtain ⟨start, startMode, steady⟩ := reachable.steady enabled
  have mode : ctx.cfg.mode ≠ .disabled := by
    rw [steady.cfg, startMode]
    exact enabled
  exact ⟨input_opened steady.cached mode, output_sent steady.cached mode,
    fun secure plain => FrameCrypto.decrypt_len_of_refused⟩

/-! ## Two static contexts -/

/-- A context with a static SAK. -/
def staticCtx (address : Nat) : Ctx :=
  (init BlockCipher.null (staticConfig (Octets.ofNat 6 address))
    (Octets.zero 12)).2

theorem reachable_staticCtx (address : Nat) :
    Reachable BlockCipher.null .staticSak (staticCtx address) :=
  ⟨_, _, _, rfl, init_staticConfig _ _ _, [], rfl⟩

/-- What the first context makes of a plaintext. -/
def staticSent : Reply :=
  (output BlockCipher.null (staticCtx 1) (List.replicate 60 7) 1700).2

/-- What the second context makes of a frame. -/
def staticReceived (frame : Bytes) : Reply :=
  (input BlockCipher.null (staticCtx 2) frame (List.replicate 1600 0)
    (Octets.zero 16)).2

/-- One static context seals a frame and another one opens it, but not with
another tag; a context that waits for the key agreement yields nothing. -/
theorem staticCtx_fails_closed :
    (Sent BlockCipher.null (staticCtx 1) (List.replicate 60 7) staticSent ∧
        Opened BlockCipher.null (staticCtx 2) staticSent.frame
          (staticReceived staticSent.frame) ∧
        staticReceived (staticSent.frame.set 91 9) = Reply.of .auth) ∧
      (output BlockCipher.null
          (initialCtx BlockCipher.null (pskConfig (Octets.zero 6) 0)
            (Octets.zero 12))
          (List.replicate 60 0) 1700).2 =
        Reply.of .notReady := by
  obtain ⟨-, sends, -⟩ :=
    data_path_fails_closed (.inl rfl) (reachable_staticCtx 1)
  obtain ⟨receives, -, -⟩ :=
    data_path_fails_closed (.inl rfl) (reachable_staticCtx 2)
  obtain ⟨-, waits, -⟩ :=
    data_path_fails_closed (.inr rfl)
      (reachable_initialCtx BlockCipher.null (Octets.zero 6) 0 (Octets.zero 12))
  have framed : staticSent ≠ Reply.of staticSent.ret := by decide +kernel
  have passed :
      staticReceived staticSent.frame ≠
        Reply.of (staticReceived staticSent.frame).ret := by
    decide +kernel
  have refused : (staticReceived (staticSent.frame.set 91 9)).ret = .auth := by
    decide +kernel
  have silent := receives (staticSent.frame.set 91 9) (List.replicate 1600 0)
    (Octets.zero 16)
  refine ⟨⟨(sends _ _).resolve_left framed,
    (receives _ _ _).resolve_left passed, ?_⟩,
    (waits _ _).resolve_right fun sent => State.noConfusion sent.secured⟩
  have empty := silent.resolve_right
    fun opened => Err.noConfusion (opened.ok.symm.trans refused)
  exact empty.trans (congrArg Reply.of refused)

end Macsec
