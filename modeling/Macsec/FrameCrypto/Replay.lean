import Macsec.FrameCrypto.Defs

/-!
# The replay window

An association records the packet numbers it accepted: below its lowest
acceptable number under the strict discipline, else in a bitmap below the
highest number received.  A recorded number is never accepted again, and
accepting a number records it without losing any other.
-/

namespace Macsec

namespace FrameCrypto

/-! ## The bitmap -/

/-- A bit of the bitmap is tested by masking. -/
theorem and_replayBit_ne_zero {bitmap : BitVec 64} {distance : UInt32} :
    bitmap &&& replayBit distance ≠ 0 ↔
      bitmap.getLsbD distance.toNat = true := by
  have single (index : Nat) :
      (replayBit distance).getLsbD index =
        (decide (index < 64) && decide (index = distance.toNat)) := by
    rw [replayBit, BitVec.getLsbD_shiftLeft, BitVec.getLsbD_one,
      Bool.eq_iff_iff]
    simp only [Bool.and_eq_true, Bool.not_eq_true', decide_eq_true_eq,
      decide_eq_false_iff_not]
    omega
  rw [Ne, BitVec.eq_of_getLsbD_eq_iff]
  constructor
  · intro some
    by_contra unset
    refine some fun index small => ?_
    change _ = (0#64).getLsbD index
    rw [BitVec.getLsbD_and, single, BitVec.getLsbD_zero]
    by_cases here : index = distance.toNat
    · rw [Bool.not_eq_true] at unset
      rw [here, unset]
      rfl
    · simp [here]
  · intro set none
    have small := BitVec.lt_of_getLsbD set
    have bit := none distance.toNat small
    change _ = (0#64).getLsbD _ at bit
    rw [BitVec.getLsbD_and, single, set, BitVec.getLsbD_zero] at bit
    simp [small] at bit

/-- Setting a bit of the bitmap keeps the others. -/
theorem getLsbD_or_replayBit {bitmap : BitVec 64} {distance : UInt32}
    {index : Nat} (small : index < 64) :
    (bitmap ||| replayBit distance).getLsbD index =
      (bitmap.getLsbD index || decide (index = distance.toNat)) := by
  rw [BitVec.getLsbD_or, replayBit, BitVec.getLsbD_shiftLeft,
    BitVec.getLsbD_one]
  congr 1
  rw [Bool.eq_iff_iff]
  simp only [Bool.and_eq_true, Bool.not_eq_true', decide_eq_true_eq,
    decide_eq_false_iff_not]
  omega

/-- The mask keeps the bits inside the window. -/
theorem getLsbD_replayMask {replayWindow : UInt32}
    (bounded : replayWindow ≤ maxReplayWindow) {index : Nat}
    (inside : index < replayWindow.toNat) :
    (replayMask replayWindow).getLsbD index = true := by
  have limit : replayWindow.toNat ≤ 64 := bounded
  unfold replayMask
  split
  next full =>
      rw [BitVec.getLsbD_allOnes, decide_eq_true_eq]
      omega
  next notFull =>
      have narrow : replayWindow.toNat < 64 := by
        apply Nat.lt_of_le_of_ne limit
        intro full
        exact notFull (UInt32.toNat_inj.mp full)
      have power : 2 ^ replayWindow.toNat < 2 ^ 64 :=
        Nat.pow_lt_pow_right (by decide) narrow
      have value :
          (replayBit replayWindow - 1).toNat = 2 ^ replayWindow.toNat - 1 := by
        have positive : 0 < 2 ^ replayWindow.toNat := Nat.two_pow_pos _
        have shifted :
            (replayBit replayWindow).toNat = 2 ^ replayWindow.toNat := by
          change (1#64 <<< replayWindow.toNat).toNat = _
          rw [BitVec.toNat_shiftLeft, Nat.shiftLeft_eq,
            show (1#64).toNat = 1 from rfl, Nat.one_mul,
            Nat.mod_eq_of_lt power]
        rw [BitVec.toNat_sub, shifted, show (1 : BitVec 64).toNat = 1 from rfl]
        omega
      rw [BitVec.getLsbD, value, Nat.testBit_two_pow_sub_one,
        decide_eq_true_eq]
      exact inside

/-! ## Recorded packet numbers -/

/-- An association remembers that it accepted a packet number. -/
def Recorded (replayWindow : UInt32) (sak : Sak) (pn : UInt32) : Prop :=
  if replayWindow = 0 then
    pn < sak.lowestAcceptablePn ∨ sak.replayExhausted = true
  else
    pn ≤ sak.highestReceivedPn ∧
      (sak.highestReceivedPn - pn < replayWindow →
        sak.replayBitmap.getLsbD (sak.highestReceivedPn - pn).toNat = true)

variable {table : SaTable} {sak : Sak} {pn : UInt32}

/-- A recorded packet number is refused. -/
theorem replayCheck_of_recorded
    (protect : table.replayProtect = true)
    (bounded : table.replayWindow ≤ maxReplayWindow)
    (nonzero : pn ≠ 0)
    (recorded : Recorded table.replayWindow sak pn) :
    replayCheck table sak pn ≠ .ok := by
  have allowed : ¬table.replayWindow > maxReplayWindow :=
    UInt32.not_lt.mpr bounded
  unfold replayCheck
  rw [protect, if_neg (by decide), if_neg allowed]
  unfold Recorded at recorded
  split
  next => exact Err.noConfusion
  next notExhausted =>
      split
      next => exact Err.noConfusion
      next notBelow =>
          split
          next strict =>
              rw [if_pos strict] at recorded
              rcases recorded with below | exhausted
              · exact absurd below notBelow
              · exact absurd exhausted notExhausted
          next windowed =>
              rw [if_neg windowed] at recorded
              obtain ⟨seen, bit⟩ := recorded
              have received :
                  ¬(sak.highestReceivedPn = 0 ∨ pn > sak.highestReceivedPn) := by
                rintro (none | above)
                · rw [none] at seen
                  exact nonzero (UInt32.le_zero_iff.mp seen)
                · exact absurd above (UInt32.not_lt.mpr seen)
              rw [if_neg received]
              dsimp only
              split
              next => exact Err.noConfusion
              next near =>
                  have set := bit (UInt32.not_le.mp near)
                  rw [if_pos (and_replayBit_ne_zero.mpr set)]
                  exact Err.noConfusion

/-- The lowest acceptable number does not matter to a nonempty window. -/
theorem recorded_replayCommit_iff
    (windowed : table.replayWindow ≠ 0) {other : UInt32} :
    Recorded table.replayWindow (replayCommit table sak pn) other ↔
      Recorded table.replayWindow
        (replayCommitBitmap table.replayWindow sak pn) other := by
  unfold replayCommit
  rw [if_neg windowed]
  dsimp only
  unfold Recorded
  rw [if_neg windowed, if_neg windowed]
  split
  next =>
      split
      next => exact Iff.rfl
      next => exact Iff.rfl
  next =>
      split
      next => exact Iff.rfl
      next => exact Iff.rfl

/-- Accepting a packet number records it. -/
theorem recorded_replayCommit
    (bounded : table.replayWindow ≤ maxReplayWindow) :
    Recorded table.replayWindow (replayCommit table sak pn) pn := by
  by_cases strict : table.replayWindow = 0
  · unfold replayCommit replayCommitStrict Recorded
    rw [if_pos strict, if_pos strict]
    dsimp only
    split
    next => exact Or.inr rfl
    next notMax =>
        refine Or.inl ?_
        have small : pn.toNat ≠ 4294967295 := fun max =>
          notMax (UInt32.toNat_inj.mp max)
        have bound := pn.toNat_lt
        rw [UInt32.lt_iff_toNat_lt, UInt32.toNat_add]
        simp only [UInt32.reduceToNat]
        omega
  · rw [recorded_replayCommit_iff strict]
    have positive : 0 < table.replayWindow.toNat :=
      Nat.pos_of_ne_zero fun zero => strict (UInt32.toNat_inj.mp zero)
    have first := getLsbD_replayMask bounded positive
    unfold replayCommitBitmap Recorded
    rw [if_neg strict]
    dsimp only
    split
    next =>
        refine ⟨UInt32.le_refl pn, fun _ => ?_⟩
        rw [UInt32.sub_self]
        change (1#64).getLsbD 0 = true
        decide
    next =>
        split
        next =>
            split
            next =>
                refine ⟨UInt32.le_refl pn, fun _ => ?_⟩
                rw [UInt32.sub_self]
                change (1#64).getLsbD 0 = true
                decide
            next =>
                refine ⟨UInt32.le_refl pn, fun _ => ?_⟩
                rw [UInt32.sub_self, UInt32.toNat_zero, BitVec.getLsbD_and,
                  BitVec.getLsbD_or, first, Bool.and_true, Bool.or_eq_true]
                exact Or.inr rfl
        next notAbove =>
            refine ⟨UInt32.not_lt.mp notAbove, fun near => ?_⟩
            have inside := UInt32.lt_iff_toNat_lt.mp near
            have small : (sak.highestReceivedPn - pn).toNat < 64 :=
              Nat.lt_of_lt_of_le inside bounded
            rw [BitVec.getLsbD_and, getLsbD_replayMask bounded inside,
              getLsbD_or_replayBit small]
            simp

/-- An accepted packet number is not below the lowest acceptable one. -/
theorem not_exhausted_of_accepted
    (protect : table.replayProtect = true)
    (accepted : replayCheck table sak pn = .ok) :
    ¬sak.replayExhausted = true ∧ ¬pn < sak.lowestAcceptablePn := by
  unfold replayCheck at accepted
  rw [protect, if_neg (by decide)] at accepted
  split at accepted
  next => exact Err.noConfusion accepted
  next =>
      split at accepted
      next => exact Err.noConfusion accepted
      next notExhausted =>
          split at accepted
          next => exact Err.noConfusion accepted
          next notBelow => exact ⟨notExhausted, notBelow⟩

/-- Accepting a packet number keeps the others recorded. -/
theorem recorded_of_replayCommit
    (protect : table.replayProtect = true)
    (bounded : table.replayWindow ≤ maxReplayWindow)
    (accepted : replayCheck table sak pn = .ok)
    {other : UInt32} (nonzero : other ≠ 0)
    (recorded : Recorded table.replayWindow sak other) :
    Recorded table.replayWindow (replayCommit table sak pn) other := by
  by_cases strict : table.replayWindow = 0
  · have inWindow := not_exhausted_of_accepted protect accepted
    unfold Recorded at recorded
    rw [if_pos strict] at recorded
    have below : other < sak.lowestAcceptablePn :=
      recorded.resolve_right inWindow.1
    have least : other < pn :=
      UInt32.lt_of_lt_of_le below (UInt32.not_lt.mp inWindow.2)
    unfold replayCommit replayCommitStrict Recorded
    rw [if_pos strict, if_pos strict]
    dsimp only
    split
    next => exact Or.inr rfl
    next notMax =>
        refine Or.inl ?_
        have small : pn.toNat ≠ 4294967295 := fun max =>
          notMax (UInt32.toNat_inj.mp max)
        have bound := pn.toNat_lt
        rw [UInt32.lt_iff_toNat_lt] at least
        rw [UInt32.lt_iff_toNat_lt, UInt32.toNat_add]
        simp only [UInt32.reduceToNat]
        omega
  · rw [recorded_replayCommit_iff strict]
    unfold Recorded at recorded ⊢
    rw [if_neg strict] at recorded ⊢
    obtain ⟨seen, bit⟩ := recorded
    unfold replayCommitBitmap
    dsimp only
    split
    next none =>
        rw [none] at seen
        exact absurd (UInt32.le_zero_iff.mp seen) nonzero
    next =>
        split
        next above =>
            have order : other ≤ pn :=
              UInt32.le_trans seen (UInt32.le_of_lt above)
            have split :
                (pn - other).toNat =
                  (pn - sak.highestReceivedPn).toNat +
                    (sak.highestReceivedPn - other).toNat := by
              rw [UInt32.toNat_sub_of_le _ _ order,
                UInt32.toNat_sub_of_le _ _ (UInt32.le_of_lt above),
                UInt32.toNat_sub_of_le _ _ seen]
              have first := UInt32.le_iff_toNat_le.mp seen
              have second := UInt32.lt_iff_toNat_lt.mp above
              omega
            split
            next far =>
                refine ⟨order, fun near => ?_⟩
                have distance : (pn - other).toNat < table.replayWindow.toNat :=
                  UInt32.lt_iff_toNat_lt.mp near
                have shift := UInt32.le_iff_toNat_le.mp far
                omega
            next =>
                refine ⟨order, fun near => ?_⟩
                have distance : (pn - other).toNat < table.replayWindow.toNat :=
                  UInt32.lt_iff_toNat_lt.mp near
                have inside :
                    sak.highestReceivedPn - other < table.replayWindow := by
                  rw [UInt32.lt_iff_toNat_lt]
                  omega
                have limit : table.replayWindow.toNat ≤ 64 := bounded
                rw [BitVec.getLsbD_and, getLsbD_replayMask bounded distance,
                  BitVec.getLsbD_or, BitVec.getLsbD_shiftLeft, split,
                  Nat.add_sub_cancel_left, bit inside]
                simp
                omega
        next =>
            refine ⟨seen, fun near => ?_⟩
            have inside := UInt32.lt_iff_toNat_lt.mp near
            have small : (sak.highestReceivedPn - other).toNat < 64 :=
              Nat.lt_of_lt_of_le inside bounded
            rw [BitVec.getLsbD_and, getLsbD_replayMask bounded inside,
              getLsbD_or_replayBit small, bit near]
            rfl

end FrameCrypto

end Macsec
