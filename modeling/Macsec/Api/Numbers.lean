import Macsec.Api.FailClosed
import Macsec.Api.Orphans
import Macsec.Foundation.Ledger
import Macsec.FrameCrypto.Replay

/-!
# The packet numbers that a context uses

A context uses up a packet number when it sends a frame and when it passes one
on.  The nonce of a sent frame is made of the channel identifier of the context
and the packet number, so a number must not be sent twice under a key.  A
received frame also selects an association, so a number must not be accepted
twice under a key and an association number.
-/

namespace Macsec

open Mka (Direction)

/-- What a packet number is used under: a key, and the association number where
it matters. -/
abbrev Tag := Bytes × Option (Fin 4)

/-- The tag of an association. -/
def tagOf : Direction → Bytes → Fin 4 → Tag
  | .tx, key, _ => (key, none)
  | .rx, key, an => (key, some an)

namespace FrameCrypto

/-- The association of a direction. -/
def SaTable.slot (table : SaTable) : Direction → Fin 4 → Sak
  | .tx, _ => table.txSak
  | .rx, an => table.rxSak an

/-- A key is installed with an association number. -/
def SaTable.Installed (table : SaTable) (direction : Direction) (key : Bytes)
    (an : Fin 4) : Prop :=
  (table.slot direction an).valid = true ∧
    (table.slot direction an).key = key ∧ (table.slot direction an).an = an

/-- An association with a tag is installed. -/
def SaTable.Holds (table : SaTable) (direction : Direction) (tag : Tag) :
    Prop :=
  ∃ key an, tagOf direction key an = tag ∧ table.Installed direction key an

/-- An association will not use a packet number any more. -/
def Past (replayWindow : UInt32) (sak : Sak) (pn : UInt32) :
    Direction → Prop
  | .tx => sak.nextPn = 0 ∨ pn < sak.nextPn
  | .rx => pn ≠ 0 → Recorded replayWindow sak pn

/-- No association with the tag will use the packet number any more. -/
def SaTable.Spent (table : SaTable) (direction : Direction) (tag : Tag)
    (pn : UInt32) : Prop :=
  ∀ key an, tagOf direction key an = tag → table.Installed direction key an →
    Past table.replayWindow (table.slot direction an) pn direction

/-- One table takes over the keys and the packet numbers of another one. -/
structure SaTable.Continues (direction : Direction) (before after : SaTable) :
    Prop where
  keys : before.SameKeys after
  protect : after.replayProtect = before.replayProtect
  window : after.replayWindow = before.replayWindow
  past : ∀ an pn,
    Past before.replayWindow (before.slot direction an) pn direction →
      Past before.replayWindow (after.slot direction an) pn direction

variable {direction : Direction} {before after : SaTable} {sak : Sak}
  {replayWindow pn : UInt32} {key : Bytes} {an : Fin 4}

theorem SaTable.Continues.refl (direction : Direction) (table : SaTable) :
    table.Continues direction table where
  keys := .refl table
  protect := rfl
  window := rfl
  past _ _ := id

/-- Under replay protection no frame is accepted in a window that is too
large. -/
theorem bounded_of_replayCheck {table : SaTable}
    (protect : table.replayProtect = true)
    (accepted : replayCheck table sak pn = .ok) :
    table.replayWindow ≤ maxReplayWindow := by
  unfold replayCheck at accepted
  rw [protect, if_neg (by decide)] at accepted
  split at accepted
  next => exact Err.noConfusion accepted
  next bounded => exact UInt32.not_lt.mp bounded

/-- The packet number that is sent is used up. -/
theorem past_followingPn (nonzero : sak.nextPn ≠ 0)
    (used : pn = sak.nextPn ∨ Past replayWindow sak pn .tx) :
    Past replayWindow { sak with nextPn := followingPn sak.nextPn } pn
      .tx := by
  have reached : pn ≤ sak.nextPn := by
    rcases used with rfl | none | below
    · exact UInt32.le_refl _
    · exact absurd none nonzero
    · exact UInt32.le_of_lt below
  unfold Past followingPn
  dsimp only
  by_cases last : sak.nextPn = 0xFFFFFFFF
  · rw [if_pos last]
    exact Or.inl rfl
  · rw [if_neg last]
    refine Or.inr (UInt32.lt_of_le_of_lt reached ?_)
    have small : sak.nextPn.toNat ≠ 4294967295 :=
      fun same => last (UInt32.toNat_inj.mp same)
    have bound := sak.nextPn.toNat_lt
    rw [UInt32.lt_iff_toNat_lt, UInt32.toNat_add]
    simp only [UInt32.reduceToNat]
    omega

/-- Whether a key is installed depends on the keys of the associations alone. -/
theorem SaTable.SameKeys.installed_iff (same : before.SameKeys after) :
    after.Installed direction key an ↔ before.Installed direction key an := by
  have slot : (before.slot direction an).SameKey (after.slot direction an) := by
    cases direction with
    | tx => exact same.tx
    | rx => exact same.rx an
  obtain ⟨sameKey, sameAn, sameValid⟩ := slot
  unfold SaTable.Installed
  rw [sameKey, sameAn, sameValid]

theorem SaTable.SameKeys.holds_iff {tag : Tag} (same : before.SameKeys after) :
    after.Holds direction tag ↔ before.Holds direction tag := by
  unfold SaTable.Holds
  simp only [same.installed_iff]

/-- What was spent stays spent. -/
theorem SaTable.Continues.spent {tag : Tag}
    (continues : before.Continues direction after)
    (spent : before.Spent direction tag pn) :
    after.Spent direction tag pn := by
  intro key an same installed
  rw [continues.keys.installed_iff] at installed
  rw [continues.window]
  exact continues.past an pn (spent key an same installed)

/-- Protecting a frame uses up the next packet number to send, if any. -/
theorem continues_encrypt (aes : BlockCipher) (ctx : Ctx) (plain : Bytes)
    (secureMaxLen : Nat) (direction : Direction) :
    ctx.toSaTable.Continues direction
      (encrypt aes ctx plain secureMaxLen).2.1.toSaTable := by
  have keys := sameKeys_encrypt aes ctx plain secureMaxLen
  rcases encrypt_cases aes ctx plain secureMaxLen with
    ⟨-, -, initialized, cached, valid, table⟩ |
    ⟨-, -, nonzero, ⟨initialized, cached, valid, table⟩, -⟩
  · rw [table] at keys ⊢
    refine ⟨keys, rfl, rfl, ?_⟩
    cases direction with
    | tx | rx => exact fun _ _ => id
  · rw [table] at keys ⊢
    refine ⟨keys, rfl, rfl, ?_⟩
    cases direction with
    | tx =>
        intro an pn used
        exact past_followingPn nonzero (Or.inr used)
    | rx => exact fun _ _ => id

/-- Opening a frame records its packet number, if any. -/
theorem continues_decrypt (aes : BlockCipher) (ctx : Ctx)
    (secure plain : Bytes)
    (protects : direction = .rx → ctx.replayProtect = true) :
    ctx.toSaTable.Continues direction
      (decrypt aes ctx secure plain).2.1.toSaTable := by
  have keys := sameKeys_decrypt aes ctx secure plain
  rcases decrypt_cases aes ctx secure plain with
    ⟨-, initialized, cached, valid, table⟩ |
    ⟨-, -, -, accepted, initialized, cached, valid, table⟩
  · rw [table] at keys ⊢
    refine ⟨keys, rfl, rfl, ?_⟩
    cases direction with
    | tx | rx => exact fun _ _ => id
  · rw [table] at keys ⊢
    refine ⟨keys, rfl, rfl, ?_⟩
    cases direction with
    | tx => exact fun _ _ => id
    | rx =>
        have protect := protects rfl
        have bounded := bounded_of_replayCheck protect accepted
        intro an pn used nonzero
        have recorded : Recorded ctx.replayWindow (ctx.rxSak an) pn :=
          used nonzero
        change Recorded ctx.replayWindow
          ((if ctx.replayProtect = true then _ else ctx.rxSak) an) pn
        rw [if_pos protect]
        by_cases selected : an = frameAn secure
        · subst selected
          rw [Function.update_self]
          exact recorded_of_replayCommit protect bounded accepted nonzero
            recorded
        · rw [Function.update_of_ne selected]
          exact recorded

end FrameCrypto

/-! ## The ledger of a direction -/

/-- The key and the packet number of the frame that a step sends. -/
def sentNumber (event : Transition.Event Ctx Call Reply) :
    Option (Bytes × UInt32) :=
  match event.input with
  | .output _ _ =>
      if event.output.ret = .ok then
        some (event.before.frameCrypto.txSak.key,
          FrameCrypto.framePn event.output.frame)
      else
        none
  | _ => none

/-- The key, the association number and the packet number of the protected frame
that a step passes to the stack. -/
def passedNumber (event : Transition.Event Ctx Call Reply) :
    Option (Bytes × Fin 4 × UInt32) :=
  match event.input with
  | .input frame _ _ =>
      if event.output.passToStack = true then
        some
          ((event.before.frameCrypto.rxSak (FrameCrypto.frameAn frame)).key,
            FrameCrypto.frameAn frame, FrameCrypto.framePn frame)
      else
        none
  | _ => none

/-- The packet number that a step uses up. -/
def usedPn (direction : Direction) (event : Transition.Event Ctx Call Reply) :
    Option (Tag × UInt32) :=
  match direction with
  | .tx => (sentNumber event).map fun used => ((used.1, none), used.2)
  | .rx =>
      (passedNumber event).map fun used =>
        ((used.1, some used.2.1), used.2.2)

/-- The account of the packet numbers of a direction. -/
def ledger (direction : Direction) :
    Transition.Ledger Ctx Call Reply Tag UInt32 where
  use := usedPn direction
  holds ctx := ctx.frameCrypto.toSaTable.Holds direction
  spent ctx := ctx.frameCrypto.toSaTable.Spent direction

/-- The associations know their numbers. -/
def FrameCrypto.SaTable.Owned (table : SaTable) : Prop :=
  ∀ an, (table.rxSak an).valid = true → (table.rxSak an).an = an

variable {aes : BlockCipher} {ctx : Ctx} {direction : Direction}

open FrameCrypto

/-- A frame that is sent uses up the next packet number. -/
theorem usedPn_output (mode : ctx.cfg.mode ≠ .disabled) {plain : Bytes}
    {txMaxLen : Nat} {tag : Tag} {pn : UInt32}
    (uses : usedPn .tx ((machine aes).event ctx (.output plain txMaxLen)) =
      some (tag, pn)) :
    tag = tagOf .tx ctx.frameCrypto.txSak.key ctx.frameCrypto.txSak.an ∧
      pn = ctx.frameCrypto.txSak.nextPn ∧
      ctx.frameCrypto.txSak.valid = true ∧ ctx.frameCrypto.txSak.nextPn ≠ 0 ∧
      (output aes ctx plain txMaxLen).1.frameCrypto.txSak =
        { ctx.frameCrypto.txSak with
          nextPn := followingPn ctx.frameCrypto.txSak.nextPn } := by
  change (if (output aes ctx plain txMaxLen).2.ret = .ok then
    some (ctx.frameCrypto.txSak.key,
      framePn (output aes ctx plain txMaxLen).2.frame)
    else none).map _ = _ at uses
  rcases @output_cases aes ctx mode plain txMaxLen with
    ⟨ret, failed, result⟩ | ⟨-, result⟩
  · rw [result, if_neg (by exact failed)] at uses
    cases uses
  · rw [result] at uses ⊢
    rcases encrypt_cases aes ctx.frameCrypto plain txMaxLen with
      ⟨failed, -⟩ |
      ⟨ok, valid, nonzero, ⟨initialized, cached, set, table⟩, rest, frame⟩
    · rw [if_neg (by exact failed)] at uses
      cases uses
    · rw [if_pos (by exact ok)] at uses
      obtain ⟨sameTag, samePn⟩ := Prod.mk.inj (Option.some.inj uses)
      dsimp only at samePn
      rw [frame, framePn_aad] at samePn
      exact ⟨sameTag.symm, samePn.symm, valid, nonzero,
        congrArg SaTable.txSak table⟩

/-- A frame that is passed on uses up its packet number. -/
theorem usedPn_input (mode : ctx.cfg.mode ≠ .disabled) {frame plain : Bytes}
    {rnd : Octets 16} {tag : Tag} {pn : UInt32}
    (uses : usedPn .rx ((machine aes).event ctx (.input frame plain rnd)) =
      some (tag, pn)) :
    let an := frameAn frame
    tag = tagOf .rx (ctx.frameCrypto.rxSak an).key an ∧ pn ≠ 0 ∧
      (ctx.frameCrypto.rxSak an).valid = true ∧
      replayCheck ctx.frameCrypto.toSaTable (ctx.frameCrypto.rxSak an) pn =
        .ok ∧
      ∃ initialized cached valid,
        (input aes ctx frame plain rnd).1.frameCrypto.toSaTable =
          { ctx.frameCrypto.toSaTable with
            rxSak :=
              if ctx.frameCrypto.replayProtect then
                Function.update ctx.frameCrypto.rxSak an
                  (replayCommit ctx.frameCrypto.toSaTable
                    (ctx.frameCrypto.rxSak an) pn)
              else
                ctx.frameCrypto.rxSak }.withCache initialized cached
            valid := by
  dsimp only
  change (if (input aes ctx frame plain rnd).2.passToStack = true then
    some ((ctx.frameCrypto.rxSak (frameAn frame)).key, frameAn frame,
      framePn frame)
    else none).map _ = _ at uses
  rcases @input_cases aes ctx mode frame plain rnd with
    ⟨-, result⟩ | ⟨-, secured, result⟩ | ⟨-, ret, -, result⟩
  · rw [result, if_neg (by exact Bool.false_ne_true)] at uses
    cases uses
  · obtain ⟨state, -, passes, -⟩ :=
      @inputSecure_cases aes ctx secured frame plain
    rw [result] at uses ⊢
    rw [state]
    rcases decrypt_cases aes ctx.frameCrypto frame plain with
      ⟨failed, -⟩ | ⟨ok, ready, nonzero, accepted, outcome⟩
    · rw [if_neg (fun passed => failed (passes.mp passed))] at uses
      cases uses
    · rw [if_pos (passes.mpr ok)] at uses
      obtain ⟨sameTag, samePn⟩ := Prod.mk.inj (Option.some.inj uses)
      simp only [readyRx, Bool.and_eq_true] at ready
      rw [← samePn]
      exact ⟨sameTag.symm, nonzero, ready.1.1, accepted, outcome⟩
  · rw [result, if_neg (by exact Bool.false_ne_true)] at uses
    cases uses

/-- A packet number is used under an association that is installed and had not
used it, and is used up then. -/
theorem takes_usedPn (mode : ctx.cfg.mode ≠ .disabled)
    (owned : ctx.frameCrypto.toSaTable.Owned)
    (protects : direction = .rx → ctx.frameCrypto.replayProtect = true)
    (call : Call) (tag : Tag) (pn : UInt32)
    (uses : usedPn direction ((machine aes).event ctx call) =
      some (tag, pn)) :
    ctx.frameCrypto.toSaTable.Holds direction tag ∧
      ¬ctx.frameCrypto.toSaTable.Spent direction tag pn ∧
      (perform aes ctx call).1.frameCrypto.toSaTable.Spent direction tag
        pn := by
  cases direction with
  | tx =>
      cases call with
      | output plain txMaxLen =>
          obtain ⟨rfl, rfl, valid, nonzero, after⟩ := usedPn_output mode uses
          have installed : ctx.frameCrypto.toSaTable.Installed .tx
              ctx.frameCrypto.txSak.key ctx.frameCrypto.txSak.an :=
            ⟨valid, rfl, rfl⟩
          refine ⟨⟨_, _, rfl, installed⟩, fun spent => ?_, ?_⟩
          · rcases spent _ _ rfl installed with none | below
            · exact nonzero none
            · exact absurd below (UInt32.lt_irrefl _)
          · intro key an _ _
            change Past _ (output aes ctx plain
              txMaxLen).1.frameCrypto.txSak _ .tx
            rw [after]
            exact past_followingPn nonzero (Or.inl rfl)
      | input | tick | buildControlFrame | notifyControlTxSuccess
      | notifyControlTxFailure => cases uses
  | rx =>
      cases call with
      | input frame plain rnd =>
          have protect := protects rfl
          obtain ⟨rfl, nonzero, valid, accepted, initialized, cached, set,
            after⟩ := usedPn_input mode uses
          have bounded := bounded_of_replayCheck protect accepted
          have installed : ctx.frameCrypto.toSaTable.Installed .rx
              (ctx.frameCrypto.rxSak (frameAn frame)).key (frameAn frame) :=
            ⟨valid, rfl, owned _ valid⟩
          refine ⟨⟨_, _, rfl, installed⟩, fun spent => ?_, ?_⟩
          · exact replayCheck_of_recorded protect bounded nonzero
              (spent _ _ rfl installed nonzero) accepted
          · intro key an same _ _
            obtain ⟨-, selected⟩ := Prod.mk.inj same
            cases selected
            change Recorded (input aes ctx frame plain
                rnd).1.frameCrypto.toSaTable.replayWindow
              ((input aes ctx frame plain rnd).1.frameCrypto.toSaTable.rxSak
                (frameAn frame)) pn
            rw [after]
            change Recorded ctx.frameCrypto.replayWindow
              ((if ctx.frameCrypto.replayProtect = true then _
                else ctx.frameCrypto.rxSak) (frameAn frame)) pn
            rw [if_pos protect, Function.update_self]
            exact recorded_replayCommit bounded
      | output | tick | buildControlFrame | notifyControlTxSuccess
      | notifyControlTxFailure => cases uses

end Macsec
