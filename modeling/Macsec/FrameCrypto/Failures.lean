import Macsec.FrameCrypto.Frames

/-!
# Frames that are not protected or not opened

A frame that cannot be protected uses up no packet number, and a frame that
cannot be opened moves no replay window and leaves none of its plaintext in
the buffer.  At most the records of the GCM key change.
-/

namespace Macsec

namespace FrameCrypto

variable {aes : BlockCipher} {ctx : Ctx}

/-- A context has the associations and the replay fields of another one. -/
def SaTable.SameSas (before after : SaTable) : Prop :=
  ∃ initialized cached valid,
    after = before.withCache initialized cached valid

/-- The checks do not report a failed authentication. -/
theorem decryptCheck_ne_auth (table : SaTable) (secure : Bytes)
    (plainMaxLen : Nat) : decryptCheck table secure plainMaxLen ≠ .auth := by
  have replay (sak : Sak) (pn : UInt32) : replayCheck table sak pn ≠ .auth := by
    unfold replayCheck
    dsimp only
    split_ifs
    all_goals exact Err.noConfusion
  have neither {c : Prop} [Decidable c] {first second : Err}
      (notFirst : first ≠ .auth) (notSecond : second ≠ .auth) :
      (if c then first else second) ≠ .auth := by
    split
    next => exact notFirst
    next => exact notSecond
  unfold decryptCheck
  dsimp only
  refine neither Err.noConfusion (neither Err.noConfusion ?_)
  refine neither Err.noConfusion (neither Err.noConfusion ?_)
  refine neither Err.noConfusion (neither Err.noConfusion ?_)
  refine neither (replay _ _) (neither Err.noConfusion ?_)
  exact neither Err.noConfusion (neither Err.noConfusion Err.noConfusion)

/-- A frame that is not opened leaves its length zero and the buffer as it was,
or zeros where the plaintext would stand. -/
theorem decrypt_failed (secure plain : Bytes)
    (failed : (decrypt aes ctx secure plain).1 ≠ .ok) :
    (decrypt aes ctx secure plain).2.2.2 = 0 ∧
      ((decrypt aes ctx secure plain).1 = .auth ∧
        (decrypt aes ctx secure plain).2.2.1 =
          plain.overlay 0
            (List.replicate (12 + (secure.length - aadLen - icvLen)) 0) ∨
      (decrypt aes ctx secure plain).1 ≠ .auth ∧
        ∃ count,
          (decrypt aes ctx secure plain).2.2.1 =
            plain.overlay 0 (List.replicate count 0)) := by
  generalize outcome : decrypt aes ctx secure plain = opened at failed ⊢
  unfold decrypt at outcome
  have unreported := decryptCheck_ne_auth ctx.toSaTable secure plain.length
  cases checked : decryptCheck ctx.toSaTable secure plain.length with
  | ok =>
      rw [checked] at outcome
      dsimp only at outcome
      obtain ⟨keyed, result | result, -⟩ :=
        gcmSetKey_cases aes ctx (ctx.rxSak (frameAn secure)).key
      · rw [result] at outcome
        dsimp only at outcome
        split at outcome
        next =>
            subst outcome
            exact ⟨rfl, Or.inl ⟨rfl, rfl⟩⟩
        next =>
            subst outcome
            exact absurd rfl failed
      · rw [result] at outcome
        subst outcome
        exact ⟨rfl, Or.inr ⟨Err.noConfusion, 12, rfl⟩⟩
  | param | buffer | crypto | state | replay | unsupported | auth | timeout
  | notReady | busy =>
      rw [checked] at outcome unreported
      subst outcome
      refine ⟨rfl, Or.inr ⟨unreported, 0, ?_⟩⟩
      rw [List.replicate_zero, Bytes.overlay_zero]
      rfl

/-- Where zeros were written there are zeros, and elsewhere the buffer is as it
was. -/
theorem octetAt_overlay_zeros (bytes : Bytes) (count index : Nat) :
    (bytes.overlay 0 (List.replicate count 0)).octetAt index =
      if index < count then 0 else bytes.octetAt index := by
  rw [Bytes.overlay_zero, List.length_replicate]
  split
  next inside =>
      rw [Bytes.octetAt_append_left]
      · simp [Bytes.octetAt, List.getD_eq_getElem?_getD, inside]
      · rw [List.length_replicate]
        exact inside
  next outside =>
      have behind :=
        Bytes.octetAt_append_right (List.replicate count 0)
          (bytes.drop count) (index - count)
      rw [List.length_replicate] at behind
      rw [← Nat.add_sub_cancel' (Nat.not_lt.mp outside), behind]
      simp [Bytes.octetAt, List.getD_eq_getElem?_getD]

/-- Errors are atomic: a frame that is not protected has no length and uses up
no packet number, and a frame that is not opened has no length, changes no
association and leaves in the buffer nothing but zeros and what was there
before; if its authentication failed, zeros throughout the plaintext.  The
records of the GCM key may change. -/
theorem frame_errors_atomic (aes : BlockCipher) (ctx : Ctx) :
    (∀ plain secureMaxLen,
      let sealing := encrypt aes ctx plain secureMaxLen
      sealing.1 ≠ .ok →
        sealing.2.2.length = 0 ∧
          ctx.toSaTable.SameSas sealing.2.1.toSaTable) ∧
    ∀ secure buffer,
      let opening := decrypt aes ctx secure buffer
      opening.1 ≠ .ok →
        opening.2.2.2 = 0 ∧ ctx.toSaTable.SameSas opening.2.1.toSaTable ∧
          (∀ index, opening.2.2.1.octetAt index = buffer.octetAt index ∨
            opening.2.2.1.octetAt index = 0) ∧
          (opening.1 = .auth →
            ∀ index < 12 + (secure.length - aadLen - icvLen),
              opening.2.2.1.octetAt index = 0) := by
  constructor
  · intro plain secureMaxLen
    dsimp only
    intro failed
    rcases encrypt_cases aes ctx plain secureMaxLen with
      ⟨-, empty, same⟩ | ⟨ok, -⟩
    · exact ⟨congrArg List.length empty, same⟩
    · exact absurd ok failed
  · intro secure buffer
    dsimp only
    intro failed
    have same : ctx.toSaTable.SameSas
        (decrypt aes ctx secure buffer).2.1.toSaTable := by
      rcases decrypt_cases aes ctx secure buffer with ⟨-, same⟩ | ⟨ok, -⟩
      · exact same
      · exact absurd ok failed
    have zeroed (count index : Nat) :
        (Bytes.overlay buffer 0 (List.replicate count 0)).octetAt index =
            buffer.octetAt index ∨
          (Bytes.overlay buffer 0 (List.replicate count 0)).octetAt index =
            0 := by
      rw [octetAt_overlay_zeros]
      split
      next => exact Or.inr rfl
      next => exact Or.inl rfl
    obtain ⟨length, ⟨-, zeros⟩ | ⟨notAuth, count, zeros⟩⟩ :=
      decrypt_failed secure buffer failed
    · refine ⟨length, same, ?_, ?_⟩
      · intro index
        rw [zeros]
        exact zeroed _ index
      · intro _ index inside
        rw [zeros, octetAt_overlay_zeros, if_pos inside]
    · refine ⟨length, same, ?_, ?_⟩
      · intro index
        rw [zeros]
        exact zeroed count index
      · exact fun auth => absurd auth notAuth

end FrameCrypto

end Macsec
