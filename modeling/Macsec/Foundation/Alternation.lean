import Mathlib.Data.List.Basic

/-!
# Key-alternating ciphers

A cipher that masks its state with a key before, between and after layers that
do not depend on the key, and mixes the state in every round but the last.  The
inverse runs through rounds of the same shape when its keys are moved through
the mixing.
-/

namespace Alternation

variable {σ κ : Type*}

/-- The first mask and `count` mixing rounds. -/
def rounds (mask : κ → σ → σ) (layer mix : σ → σ) (keys : Nat → κ) :
    (count : Nat) → σ → σ
  | 0, state => mask (keys 0) state
  | count + 1, state =>
      mask (keys (count + 1)) (mix (layer (rounds mask layer mix keys count state)))

/-- The cipher with `last` rounds, the last one without mixing. -/
def cipher (mask : κ → σ → σ) (layer mix : σ → σ) (keys : Nat → κ)
    (last : Nat) (state : σ) : σ :=
  mask (keys last) (layer (rounds mask layer mix keys (last - 1) state))

/-- The mixing rounds as a loop over their numbers. -/
theorem foldl_eq_rounds (mask : κ → σ → σ) (layer mix : σ → σ)
    (keys : Nat → κ) (count : Nat) (state : σ) :
    (List.range' 1 count).foldl
        (fun state round => mask (keys round) (mix (layer state)))
        (mask (keys 0) state) =
      rounds mask layer mix keys count state := by
  induction count with
  | zero => rfl
  | succ count inductionHypothesis =>
      rw [List.range'_1_concat, List.foldl_append, inductionHypothesis,
        List.foldl_cons, List.foldl_nil, rounds, Nat.add_comm 1]

/-- A cipher depends on its keys up to the last round only. -/
theorem cipher_congr (mask : κ → σ → σ) (layer mix : σ → σ)
    {keys others : Nat → κ} {last : Nat}
    (same : ∀ round ≤ last, keys round = others round) (state : σ) :
    cipher mask layer mix keys last state =
      cipher mask layer mix others last state := by
  have rounds_congr (count : Nat) (inside : count ≤ last) :
      rounds mask layer mix keys count state =
        rounds mask layer mix others count state := by
    induction count with
    | zero => rw [rounds, rounds, same 0 inside]
    | succ count inductionHypothesis =>
        rw [rounds, rounds, same (count + 1) inside,
          inductionHypothesis (Nat.le_of_succ_le inside)]
  rw [cipher, cipher, same last (Nat.le_refl last),
    rounds_congr (last - 1) (Nat.sub_le _ _)]

/-- The keys that undo a cipher: in the opposite order, those in between moved
through the mixing. -/
def undoing (moved : κ → κ) (keys : Nat → κ) (last round : Nat) : κ :=
  if round = 0 ∨ round = last then
    keys (last - round)
  else
    moved (keys (last - round))

section Inverse

variable {mask : κ → σ → σ} {layer mix unlayer unmix : σ → σ} {moved : κ → κ}
  (cancels : ∀ key state, mask key (mask key state) = state)
  (unlayers : ∀ state, unlayer (layer state) = state)
  (unmixes : ∀ state, unmix (mix state) = state)
  (moves : ∀ key state, unmix (mask key state) = mask (moved key) (unmix state))

include cancels unlayers unmixes moves

/-- After as many rounds of the inverse as the cipher has left to go, the state
is the one that the cipher had, substituted. -/
theorem rounds_undoing (keys : Nat → κ) (last count : Nat)
    (inside : count < last) (state : σ) :
    rounds mask unlayer unmix (undoing moved keys last) count
        (cipher mask layer mix keys last state) =
      layer (rounds mask layer mix keys (last - 1 - count) state) := by
  induction count with
  | zero =>
      rw [rounds, undoing, if_pos (Or.inl rfl), Nat.sub_zero, cipher, cancels,
        Nat.sub_zero]
  | succ count inductionHypothesis =>
      have between : ¬(count + 1 = 0 ∨ count + 1 = last) := by omega
      have before : last - 1 - count = last - 1 - (count + 1) + 1 := by omega
      have key : last - (count + 1) = last - 1 - (count + 1) + 1 := by omega
      rw [rounds, inductionHypothesis (by omega), unlayers, before, rounds,
        moves, unmixes, undoing, if_neg between, key, cancels]

/-- A cipher is undone by the cipher of the inverse layers under the undoing
keys. -/
theorem cipher_undoing (keys : Nat → κ) {last : Nat} (positive : 0 < last)
    (state : σ) :
    cipher mask unlayer unmix (undoing moved keys last) last
        (cipher mask layer mix keys last state) =
      state := by
  have masked :=
    rounds_undoing cancels unlayers unmixes moves keys last (last - 1)
      (by omega) state
  rw [Nat.sub_self] at masked
  rw [cipher, masked, unlayers, rounds, undoing, if_pos (Or.inr rfl),
    Nat.sub_self, cancels]

end Inverse

end Alternation
