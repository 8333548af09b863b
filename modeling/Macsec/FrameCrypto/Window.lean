import Macsec.FrameCrypto.Replay

/-!
# The replay window and the set of accepted numbers

What a receiver may accept depends on the numbers it accepted before: a number
must not be below the initial lowest one, must be new, and must not be too far
below the highest one accepted.  The replay state of an association decides
exactly this, for windows of every supported size: it keeps in step with the
numbers accepted so far.
-/

namespace Macsec

namespace FrameCrypto

/-! ## The specification -/

/-- The highest of the accepted numbers. -/
def highest (accepted : List Nat) : Nat :=
  accepted.foldr max 0

theorem le_highest {accepted : List Nat} {pn : Nat} (member : pn ∈ accepted) :
    pn ≤ highest accepted := by
  induction accepted with
  | nil => exact absurd member (by simp)
  | cons first accepted inductionHypothesis =>
      change pn ≤ max first (highest accepted)
      rcases List.mem_cons.mp member with rfl | later
      · exact Nat.le_max_left ..
      · exact (inductionHypothesis later).trans (Nat.le_max_right ..)

/-- An accepted number that bounds all of them is the highest. -/
theorem highest_eq {accepted : List Nat} {top : Nat} (member : top ∈ accepted)
    (bound : ∀ pn ∈ accepted, pn ≤ top) : highest accepted = top := by
  refine Nat.le_antisymm ?_ (le_highest member)
  clear member
  induction accepted with
  | nil => exact Nat.zero_le top
  | cons first accepted inductionHypothesis =>
      rw [List.forall_mem_cons] at bound
      exact Nat.max_le.mpr ⟨bound.1, inductionHypothesis bound.2⟩

/-- What a receiver may accept: no number below the initial lowest one, no
number twice, and no number that is the width of the window or more below the
highest one accepted.  Zero counts as one, as a lowest number and as a
width. -/
def Acceptable (lowest window : Nat) (accepted : List Nat) (pn : Nat) : Prop :=
  max lowest 1 ≤ pn ∧ pn ∉ accepted ∧
    (accepted = [] ∨
      (highest accepted : Int) - (max window 1 : Nat) < (pn : Int))

instance (lowest window : Nat) (accepted : List Nat) (pn : Nat) :
    Decidable (Acceptable lowest window accepted pn) :=
  inferInstanceAs (Decidable (_ ∧ _ ∧ _))

/-! ## The strict discipline -/

/-- The largest packet number. -/
def maxPn : Nat := 4294967295

/-- Without a window the lowest acceptable number follows the highest accepted
one, until the numbers are exhausted. -/
structure StrictlyTracks (lowest : Nat) (accepted : List Nat) (sak : Sak) :
    Prop where
  least : ∀ pn ∈ accepted, max lowest 1 ≤ pn
  top : (accepted = [] ∧ sak.replayExhausted = false ∧
      sak.lowestAcceptablePn.toNat = max lowest 1) ∨
    ∃ high ∈ accepted, (∀ pn ∈ accepted, pn ≤ high) ∧
      ((high = maxPn ∧ sak.replayExhausted = true) ∨
        (high < maxPn ∧ sak.replayExhausted = false ∧
          sak.lowestAcceptablePn.toNat = high + 1))

/-! ## The window -/

/-- With a window the bitmap tells which numbers below the highest one were
accepted, and the lowest acceptable number is the lower end of the window. -/
structure Tracks (lowest window : Nat) (accepted : List Nat) (sak : Sak) :
    Prop where
  alive : sak.replayExhausted = false
  least : ∀ pn ∈ accepted, max lowest 1 ≤ pn
  bounded : ∀ pn ∈ accepted, pn ≤ sak.highestReceivedPn.toNat
  top : (accepted = [] ∧
      sak.highestReceivedPn.toNat + 1 = max lowest 1 ∧
      sak.lowestAcceptablePn.toNat = max lowest 1) ∨
    (sak.highestReceivedPn.toNat ∈ accepted ∧
      sak.lowestAcceptablePn.toNat =
        max (max lowest 1) (sak.highestReceivedPn.toNat + 1 - window))
  bits : ∀ distance, distance < window →
    distance < sak.highestReceivedPn.toNat →
      (sak.replayBitmap.getLsbD distance = true ↔
        sak.highestReceivedPn.toNat - distance ∈ accepted)

variable {table : SaTable} {sak : Sak} {pn : UInt32} {lowest : Nat}
  {accepted : List Nat}

/-! ## Checking -/

/-- What the check decides without a window. -/
theorem replayCheck_strict (protect : table.replayProtect = true)
    (strict : table.replayWindow = 0) :
    replayCheck table sak pn = .ok ↔
      sak.replayExhausted = false ∧
        sak.lowestAcceptablePn.toNat ≤ pn.toNat := by
  unfold replayCheck
  rw [protect, strict, if_neg (by decide), if_neg (by decide), if_pos rfl]
  cases sak.replayExhausted with
  | true => simp
  | false =>
      rw [if_neg Bool.false_ne_true]
      split
      next below =>
          have order := UInt32.lt_iff_toNat_lt.mp below
          simp only [reduceCtorEq, true_and, false_iff]
          omega
      next notBelow =>
          have order := UInt32.le_iff_toNat_le.mp (UInt32.not_lt.mp notBelow)
          simp [order]

/-- What the check decides with a window. -/
theorem replayCheck_window (protect : table.replayProtect = true)
    (bounded : table.replayWindow ≤ maxReplayWindow)
    (windowed : table.replayWindow ≠ 0)
    (alive : sak.replayExhausted = false) :
    replayCheck table sak pn = .ok ↔
      sak.lowestAcceptablePn.toNat ≤ pn.toNat ∧
        (sak.highestReceivedPn.toNat = 0 ∨
          sak.highestReceivedPn.toNat < pn.toNat ∨
          (sak.highestReceivedPn.toNat - pn.toNat <
              table.replayWindow.toNat ∧
            sak.replayBitmap.getLsbD
                (sak.highestReceivedPn.toNat - pn.toNat) = false)) := by
  unfold replayCheck
  rw [protect, alive, if_neg (by decide),
    if_neg (UInt32.not_lt.mpr bounded), if_neg Bool.false_ne_true,
    if_neg windowed]
  split
  next below =>
      have order := UInt32.lt_iff_toNat_lt.mp below
      simp only [reduceCtorEq, false_iff]
      omega
  next notBelow =>
      have order := UInt32.le_iff_toNat_le.mp (UInt32.not_lt.mp notBelow)
      split
      next above =>
          refine ⟨fun _ => ⟨order, ?_⟩, fun _ => rfl⟩
          rcases above with none | above
          · exact Or.inl (by rw [none]; rfl)
          · exact Or.inr (Or.inl (UInt32.lt_iff_toNat_lt.mp above))
      next notAbove =>
          rw [not_or] at notAbove
          have received : sak.highestReceivedPn.toNat ≠ 0 :=
            fun none => notAbove.1 (UInt32.toNat_inj.mp none)
          have within := UInt32.not_lt.mp notAbove.2
          have inside := UInt32.le_iff_toNat_le.mp within
          have distance := UInt32.toNat_sub_of_le _ _ within
          dsimp only
          split
          next far =>
              have gap := UInt32.le_iff_toNat_le.mp far
              rw [distance] at gap
              simp only [reduceCtorEq, false_iff]
              omega
          next near =>
              have gap := UInt32.lt_iff_toNat_lt.mp (UInt32.not_le.mp near)
              have bit :=
                @and_replayBit_ne_zero sak.replayBitmap
                  (sak.highestReceivedPn - pn)
              rw [distance] at gap bit
              split
              next set =>
                  have seen := bit.mp set
                  simp only [reduceCtorEq, seen, Bool.true_eq_false, and_false,
                    or_false, false_iff]
                  omega
              next unset =>
                  have unseen := mt bit.mpr unset
                  rw [Bool.not_eq_true] at unseen
                  exact ⟨fun _ => ⟨order, Or.inr (Or.inr ⟨gap, unseen⟩)⟩,
                    fun _ => rfl⟩

/-- Without a window the check accepts what is acceptable. -/
theorem StrictlyTracks.check_iff
    (tracks : StrictlyTracks lowest accepted sak)
    (protect : table.replayProtect = true)
    (strict : table.replayWindow = 0) :
    replayCheck table sak pn = .ok ↔
      Acceptable lowest table.replayWindow.toNat accepted pn.toNat := by
  have small := pn.toNat_lt
  have limit : maxPn = 4294967295 := rfl
  rw [replayCheck_strict protect strict, strict, Acceptable]
  rcases tracks.top with ⟨rfl, alive, least⟩ |
      ⟨high, member, bound, ⟨isMax, exhausted⟩ | ⟨notMax, alive, least⟩⟩
  · simp [alive, least]
  · have top := highest_eq member bound
    have nonempty := List.ne_nil_of_mem member
    simp only [exhausted, Bool.true_eq_false, false_and, false_iff, top]
    rintro ⟨-, fresh, none | above⟩
    · exact nonempty none
    · simp at above
      have differ : pn.toNat ≠ high := fun same => fresh (same ▸ member)
      omega
  · have top := highest_eq member bound
    have nonempty := List.ne_nil_of_mem member
    have initial := tracks.least high member
    simp only [alive, true_and, least, top, nonempty, false_or]
    constructor
    · intro above
      refine ⟨by omega, fun seen => ?_, by simp; omega⟩
      have order := bound _ seen
      omega
    · rintro ⟨-, fresh, above⟩
      simp at above
      have differ : pn.toNat ≠ high := fun same => fresh (same ▸ member)
      omega

/-- With a window the check accepts what is acceptable. -/
theorem Tracks.check_iff
    (tracks : Tracks lowest table.replayWindow.toNat accepted sak)
    (protect : table.replayProtect = true)
    (bounded : table.replayWindow ≤ maxReplayWindow)
    (windowed : table.replayWindow ≠ 0) :
    replayCheck table sak pn = .ok ↔
      Acceptable lowest table.replayWindow.toNat accepted pn.toNat := by
  have wide : table.replayWindow.toNat ≠ 0 :=
    fun none => windowed (UInt32.toNat_inj.mp none)
  rw [replayCheck_window protect bounded windowed tracks.alive, Acceptable]
  rcases tracks.top with ⟨rfl, beneath, least⟩ | ⟨member, least⟩
  · simp only [least, List.not_mem_nil, not_false_eq_true, true_or, and_true]
    refine ⟨And.left, fun initial => ⟨initial, ?_⟩⟩
    omega
  · have top := highest_eq member tracks.bounded
    have nonempty := List.ne_nil_of_mem member
    have initial := tracks.least _ member
    have bits := tracks.bits
      (sak.highestReceivedPn.toNat - pn.toNat)
    simp only [least, top, nonempty, false_or]
    constructor
    · rintro ⟨above, none | new | ⟨near, unset⟩⟩
      · omega
      · refine ⟨by omega, fun seen => ?_, by omega⟩
        have order := tracks.bounded _ seen
        omega
      · refine ⟨by omega, fun seen => ?_, by omega⟩
        have order := tracks.bounded _ seen
        have recorded := (bits near (by omega)).mpr (by
          rwa [Nat.sub_sub_self order])
        rw [unset] at recorded
        exact Bool.noConfusion recorded
    · rintro ⟨above, fresh, inside⟩
      refine ⟨by omega, Or.inr ?_⟩
      by_cases new : sak.highestReceivedPn.toNat < pn.toNat
      · exact Or.inl new
      · refine Or.inr ⟨by omega, ?_⟩
        rw [← Bool.not_eq_true]
        intro set
        have seen := (bits (by omega) (by omega)).mp set
        rw [Nat.sub_sub_self (by omega)] at seen
        exact fresh seen

/-! ## Recording -/

/-- Recording an accepted number without a window. -/
theorem StrictlyTracks.commit (tracks : StrictlyTracks lowest accepted sak)
    (protect : table.replayProtect = true)
    (strict : table.replayWindow = 0)
    (accepts : replayCheck table sak pn = .ok) :
    StrictlyTracks lowest (pn.toNat :: accepted)
      (replayCommit table sak pn) := by
  have small := pn.toNat_lt
  have limit : maxPn = 4294967295 := rfl
  obtain ⟨initial, fresh, above⟩ :=
    (tracks.check_iff protect strict).mp accepts
  have bound : ∀ other ∈ accepted, other ≤ pn.toNat := by
    intro other member
    have order := le_highest member
    rcases above with none | above
    · exact absurd member (by rw [none]; simp)
    · rw [strict] at above
      simp at above
      omega
  refine ⟨List.forall_mem_cons.mpr ⟨initial, tracks.least⟩,
    Or.inr ⟨pn.toNat, List.mem_cons_self,
      List.forall_mem_cons.mpr ⟨Nat.le_refl _, bound⟩, ?_⟩⟩
  have alive := ((replayCheck_strict protect strict).mp accepts).1
  unfold replayCommit replayCommitStrict
  rw [if_pos strict]
  dsimp only
  split
  next isMax => exact Or.inl ⟨congrArg UInt32.toNat isMax, rfl⟩
  next notMax =>
      have below : pn.toNat < maxPn := by
        have differ : pn.toNat ≠ 4294967295 :=
          fun same => notMax (UInt32.toNat_inj.mp same)
        omega
      refine Or.inr ⟨below, alive, ?_⟩
      rw [UInt32.toNat_add]
      simp only [UInt32.reduceToNat]
      omega

/-- The highest number and the bitmap after a number is recorded: the bitmap
moves up with the highest number, and the bit of the new number is set. -/
theorem replayCommitBitmap_state
    (bounded : table.replayWindow ≤ maxReplayWindow)
    (near : sak.highestReceivedPn.toNat < pn.toNat ∨
      sak.highestReceivedPn.toNat - pn.toNat < table.replayWindow.toNat) :
    let after := replayCommitBitmap table.replayWindow sak pn
    let rise := pn.toNat - sak.highestReceivedPn.toNat
    after.highestReceivedPn.toNat = sak.highestReceivedPn.toNat + rise ∧
      ∀ distance, distance < table.replayWindow.toNat →
        distance < after.highestReceivedPn.toNat →
          (after.replayBitmap.getLsbD distance = true ↔
            after.highestReceivedPn.toNat - distance = pn.toNat ∨
              (rise ≤ distance ∧ sak.highestReceivedPn.toNat ≠ 0 ∧
                sak.replayBitmap.getLsbD (distance - rise) = true)) := by
  have limit : table.replayWindow.toNat ≤ 64 := bounded
  have lowestBit (index : Nat) :
      (1#64).getLsbD index = true ↔ index = 0 := by
    rw [BitVec.getLsbD_one]
    simp
  unfold replayCommitBitmap
  dsimp only
  split
  next none =>
      have zero : sak.highestReceivedPn.toNat = 0 := by rw [none]; rfl
      refine ⟨by dsimp only; omega, fun distance inside below => ?_⟩
      dsimp only at below ⊢
      change (1#64).getLsbD distance = true ↔ _
      rw [lowestBit, zero]
      simp only [ne_eq, not_true_eq_false, false_and, and_false, or_false]
      omega
  next received =>
      have some : sak.highestReceivedPn.toNat ≠ 0 :=
        fun none => received (UInt32.toNat_inj.mp none)
      split
      next above =>
          have order := UInt32.lt_iff_toNat_lt.mp above
          have rise := UInt32.toNat_sub_of_le _ _ (UInt32.le_of_lt above)
          split
          next far =>
              have jump := UInt32.le_iff_toNat_le.mp far
              refine ⟨by dsimp only; omega, fun distance inside below => ?_⟩
              dsimp only at below ⊢
              change (1#64).getLsbD distance = true ↔ _
              rw [lowestBit]
              omega
          next close =>
              have jump := UInt32.lt_iff_toNat_lt.mp (UInt32.not_le.mp close)
              refine ⟨by dsimp only; omega, fun distance inside below => ?_⟩
              dsimp only at below ⊢
              rw [BitVec.getLsbD_and, getLsbD_replayMask bounded inside,
                Bool.and_true, BitVec.getLsbD_or, BitVec.getLsbD_shiftLeft,
                Bool.or_eq_true, rise]
              change _ ∨ (1#64).getLsbD distance = true ↔ _
              rw [lowestBit]
              simp only [Bool.and_eq_true, Bool.not_eq_true',
                decide_eq_true_eq, decide_eq_false_iff_not]
              constructor
              · rintro (⟨⟨-, moved⟩, set⟩ | zero)
                · exact Or.inr ⟨by omega, some, set⟩
                · exact Or.inl (by omega)
              · rintro (new | ⟨moved, -, set⟩)
                · exact Or.inr (by omega)
                · exact Or.inl ⟨⟨by omega, by omega⟩, set⟩
      next notAbove =>
          have within := UInt32.not_lt.mp notAbove
          have order := UInt32.le_iff_toNat_le.mp within
          have gap := UInt32.toNat_sub_of_le _ _ within
          have close := near.resolve_left (Nat.not_lt.mpr order)
          refine ⟨by dsimp only; omega, fun distance inside below => ?_⟩
          dsimp only at below ⊢
          rw [BitVec.getLsbD_and, getLsbD_replayMask bounded inside,
            Bool.and_true, getLsbD_or_replayBit (by omega), gap,
            Bool.or_eq_true, decide_eq_true_eq,
            show pn.toNat - sak.highestReceivedPn.toNat = 0 by omega,
            Nat.sub_zero]
          constructor
          · rintro (set | here)
            · exact Or.inr ⟨Nat.zero_le _, some, set⟩
            · exact Or.inl (by omega)
          · rintro (new | ⟨-, -, set⟩)
            · exact Or.inr (by omega)
            · exact Or.inl set

/-- Recording a number raises the lowest acceptable one to the lower end of the
window, and leaves the rest of the replay state to the bitmap. -/
theorem replayCommit_window (windowed : table.replayWindow ≠ 0) :
    let recorded := replayCommitBitmap table.replayWindow sak pn
    let after := replayCommit table sak pn
    after.replayExhausted = sak.replayExhausted ∧
      after.highestReceivedPn = recorded.highestReceivedPn ∧
      after.replayBitmap = recorded.replayBitmap ∧
      after.lowestAcceptablePn.toNat =
        max sak.lowestAcceptablePn.toNat
          (if table.replayWindow.toNat ≤ recorded.highestReceivedPn.toNat then
            recorded.highestReceivedPn.toNat + 1 - table.replayWindow.toNat
          else
            1) := by
  have exhausted :
      (replayCommitBitmap table.replayWindow sak pn).replayExhausted =
        sak.replayExhausted := by
    unfold replayCommitBitmap
    dsimp only
    split_ifs
    all_goals rfl
  have lowest :
      (replayCommitBitmap table.replayWindow sak pn).lowestAcceptablePn =
        sak.lowestAcceptablePn := by
    unfold replayCommitBitmap
    dsimp only
    split_ifs
    all_goals rfl
  have wide : table.replayWindow.toNat ≠ 0 :=
    fun none => windowed (UInt32.toNat_inj.mp none)
  unfold replayCommit
  rw [if_neg windowed]
  dsimp only
  generalize replayCommitBitmap table.replayWindow sak pn = recorded
    at exhausted lowest ⊢
  have top := recorded.highestReceivedPn.toNat_lt
  have least :
      (if recorded.highestReceivedPn ≥ table.replayWindow then
        recorded.highestReceivedPn - table.replayWindow + 1
      else
        1).toNat =
      if table.replayWindow.toNat ≤ recorded.highestReceivedPn.toNat then
        recorded.highestReceivedPn.toNat + 1 - table.replayWindow.toNat
      else
        1 := by
    by_cases full : recorded.highestReceivedPn ≥ table.replayWindow
    · have order := UInt32.le_iff_toNat_le.mp full
      rw [if_pos full, if_pos order, UInt32.toNat_add,
        UInt32.toNat_sub_of_le _ _ full]
      simp only [UInt32.reduceToNat]
      omega
    · have order := mt UInt32.le_iff_toNat_le.mpr full
      rw [if_neg full, if_neg order]
      rfl
  rw [← least, ← lowest]
  generalize (if recorded.highestReceivedPn ≥ table.replayWindow then
      recorded.highestReceivedPn - table.replayWindow + 1
    else
      1) = newLowestPn
  split
  next raised =>
      have order := UInt32.lt_iff_toNat_lt.mp raised
      exact ⟨exhausted, rfl, rfl, (Nat.max_eq_right (Nat.le_of_lt order)).symm⟩
  next kept =>
      have order := UInt32.le_iff_toNat_le.mp (UInt32.not_lt.mp kept)
      exact ⟨exhausted, rfl, rfl, (Nat.max_eq_left order).symm⟩

/-- Recording an accepted number with a window. -/
theorem Tracks.commit
    (tracks : Tracks lowest table.replayWindow.toNat accepted sak)
    (protect : table.replayProtect = true)
    (bounded : table.replayWindow ≤ maxReplayWindow)
    (windowed : table.replayWindow ≠ 0)
    (accepts : replayCheck table sak pn = .ok) :
    Tracks lowest table.replayWindow.toNat (pn.toNat :: accepted)
      (replayCommit table sak pn) := by
  have wide : table.replayWindow.toNat ≠ 0 :=
    fun none => windowed (UInt32.toNat_inj.mp none)
  obtain ⟨initial, fresh, above⟩ :=
    (tracks.check_iff protect bounded windowed).mp accepts
  have near : sak.highestReceivedPn.toNat < pn.toNat ∨
      sak.highestReceivedPn.toNat - pn.toNat < table.replayWindow.toNat := by
    rcases tracks.top with ⟨rfl, beneath, -⟩ | ⟨member, -⟩
    · exact Or.inl (by omega)
    · have top := highest_eq member tracks.bounded
      rw [top] at above
      rcases above with none | above
      · exact absurd member (by rw [none]; simp)
      · omega
  obtain ⟨high, bits⟩ :=
    @replayCommitBitmap_state table sak pn bounded near
  obtain ⟨exhausted, sameHigh, sameBitmap, least⟩ :=
    @replayCommit_window table sak pn windowed
  rw [← sameHigh] at high bits least
  rw [← sameBitmap] at bits
  generalize replayCommit table sak pn = after at *
  refine ⟨exhausted.trans tracks.alive,
    List.forall_mem_cons.mpr ⟨initial, tracks.least⟩,
    List.forall_mem_cons.mpr ⟨by omega, fun other member => ?_⟩,
    Or.inr ⟨?_, ?_⟩, fun distance inside below => ?_⟩
  · have order := tracks.bounded other member
    omega
  · rw [List.mem_cons]
    by_cases new : sak.highestReceivedPn.toNat < pn.toNat
    · exact Or.inl (by omega)
    · rcases tracks.top with ⟨rfl, beneath, -⟩ | ⟨member, -⟩
      · omega
      · refine Or.inr ?_
        rwa [high, Nat.sub_eq_zero_of_le (Nat.not_lt.mp new), Nat.add_zero]
  · rcases tracks.top with ⟨-, beneath, initially⟩ | ⟨-, initially⟩
    · rw [least, initially]
      split
      all_goals omega
    · rw [least, initially]
      split
      all_goals omega
  · rw [bits distance inside below, List.mem_cons]
    refine or_congr Iff.rfl ?_
    constructor
    · rintro ⟨moved, some, set⟩
      have seen := (tracks.bits _ (by omega) (by omega)).mp set
      rwa [show after.highestReceivedPn.toNat - distance =
        sak.highestReceivedPn.toNat -
          (distance - (pn.toNat - sak.highestReceivedPn.toNat)) by omega]
    · intro seen
      have order := tracks.bounded _ seen
      have first := tracks.least _ seen
      refine ⟨by omega, by omega,
        (tracks.bits _ (by omega) (by omega)).mpr ?_⟩
      rwa [show sak.highestReceivedPn.toNat -
          (distance - (pn.toNat - sak.highestReceivedPn.toNat)) =
        after.highestReceivedPn.toNat - distance by omega]

/-! ## Windows of every size -/

/-- The replay state keeps in step with the accepted numbers. -/
structure InStep (replayWindow : UInt32) (lowest : Nat) (accepted : List Nat)
    (sak : Sak) : Prop where
  strict : replayWindow = 0 → StrictlyTracks lowest accepted sak
  windowed : replayWindow ≠ 0 →
    Tracks lowest replayWindow.toNat accepted sak

theorem InStep.check_iff
    (inStep : InStep table.replayWindow lowest accepted sak)
    (protect : table.replayProtect = true)
    (bounded : table.replayWindow ≤ maxReplayWindow) :
    replayCheck table sak pn = .ok ↔
      Acceptable lowest table.replayWindow.toNat accepted pn.toNat := by
  by_cases strict : table.replayWindow = 0
  · exact (inStep.strict strict).check_iff protect strict
  · exact (inStep.windowed strict).check_iff protect bounded strict

theorem InStep.commit
    (inStep : InStep table.replayWindow lowest accepted sak)
    (protect : table.replayProtect = true)
    (bounded : table.replayWindow ≤ maxReplayWindow)
    (accepts : replayCheck table sak pn = .ok) :
    InStep table.replayWindow lowest (pn.toNat :: accepted)
      (replayCommit table sak pn) where
  strict strict := (inStep.strict strict).commit protect strict accepts
  windowed windowed :=
    (inStep.windowed windowed).commit protect bounded windowed accepts

/-- An association that was installed without a history has accepted
nothing. -/
theorem inStep_normalizeRx (replayWindow : UInt32)
    (none : sak.highestReceivedPn = 0) (empty : sak.replayBitmap = 0)
    (alive : sak.replayExhausted = false) :
    InStep replayWindow sak.lowestAcceptablePn.toNat [] (normalizeRx sak) := by
  have small := sak.lowestAcceptablePn.toNat_lt
  have state :
      (normalizeRx sak).replayExhausted = false ∧
        (normalizeRx sak).replayBitmap = 0 ∧
        (normalizeRx sak).lowestAcceptablePn.toNat =
          max sak.lowestAcceptablePn.toNat 1 ∧
        (normalizeRx sak).highestReceivedPn.toNat + 1 =
          max sak.lowestAcceptablePn.toNat 1 := by
    unfold normalizeRx
    dsimp only
    by_cases zero : sak.lowestAcceptablePn = 0
    · have initial : ¬(1 : UInt32) > 1 := by decide
      rw [if_pos zero, if_neg (fun raised => initial raised.2.2), zero]
      exact ⟨alive, empty, rfl, by rw [none]; rfl⟩
    · have positive : sak.lowestAcceptablePn.toNat ≠ 0 :=
        fun same => zero (UInt32.toNat_inj.mp same)
      rw [if_neg zero]
      by_cases raised : sak.lowestAcceptablePn > 1
      · have order := UInt32.lt_iff_toNat_lt.mp raised
        rw [if_pos ⟨none, empty, raised⟩]
        refine ⟨alive, empty, by dsimp only; omega, ?_⟩
        dsimp only
        rw [UInt32.toNat_sub_of_le _ _ (UInt32.le_of_lt raised)]
        simp only [UInt32.reduceToNat] at order ⊢
        omega
      · have order := mt UInt32.lt_iff_toNat_lt.mpr raised
        rw [if_neg (fun all => raised all.2.2), none]
        simp only [UInt32.reduceToNat] at order ⊢
        exact ⟨alive, empty, by omega, by omega⟩
  obtain ⟨alive, empty, least, beneath⟩ := state
  constructor
  · intro strict
    exact ⟨by simp, Or.inl ⟨rfl, alive, least⟩⟩
  · intro windowed
    refine ⟨alive, by simp, by simp, Or.inl ⟨rfl, beneath, least⟩,
      fun distance _ _ => ?_⟩
    rw [empty]
    change (0#64).getLsbD distance = true ↔ _
    simp

end FrameCrypto

end Macsec
