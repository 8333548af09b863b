import Macsec.Api.StaticClosed

/-!
# Packet numbers of a static SAK

A static context installs its SAK once, so nothing brings a packet number back
as long as the context is undisturbed, and a context that was closed uses none.
Numbers are sent in increasing order, and they are accepted once at most; where
the replay window is zero, they are accepted in increasing order as well.
-/

namespace Macsec

open Mka (Direction)

variable {aes : BlockCipher} {start ctx : Ctx} {direction : Direction}

/-! ## Initialisation -/

/-- Installing the static SAK installs it in both directions. -/
theorem Control.table_installStaticSak {ctx : Control}
    (ok : ctx.installStaticSak.1 = .ok) :
    ∃ an, ctx.installStaticSak.2.table =
      txTable (rxTable ctx.table ctx.cfg.staticSak an 1) ctx.cfg.staticSak
        an := by
  unfold Control.installStaticSak at ok ⊢
  split at ok
  next inRange =>
      rw [dif_pos inRange]
      dsimp only at ok ⊢
      cases length : Mka.sakLenValid ctx.cfg.staticSak.length with
      | true =>
          rw [Control.installRxSak_eq length]
          dsimp only
          rw [Control.installTxSak_eq length]
          exact ⟨_, rfl⟩
      | false =>
          rw [Control.installRxSak, length] at ok
          exact Err.noConfusion ok
  next => exact Err.noConfusion ok

/-- A static context starts with its SAK in both directions and with no other
one. -/
theorem init_static {cfg : Config} {mi : Octets 12}
    (mode : cfg.mode = .staticSak)
    (initialised : init aes cfg mi = (.ok, start)) :
    ∃ an, start.frameCrypto.toSaTable =
      { (startCtx cfg).control.table with
        rxSak :=
          Function.update (fun _ => FrameCrypto.Sak.cleared) an
            (FrameCrypto.normalizeRx (freshSak cfg.staticSak an 1))
        txSak := freshSak cfg.staticSak an 1 } := by
  unfold init at initialised
  dsimp only at initialised
  rw [show (startCtx cfg).cfg.mode = cfg.mode from rfl, mode] at initialised
  dsimp only at initialised
  split at initialised
  next installed result =>
      cases initialised
      obtain ⟨ok, state⟩ := Prod.mk.inj result
      obtain ⟨an, table⟩ := Control.table_installStaticSak ok
      refine ⟨an, ?_⟩
      rw [← state]
      exact table
  next failed result =>
      cases initialised
      exact absurd rfl failed

/-- A static context holds one tag in each direction. -/
theorem exists_tag (mode : ∃ cfg mi, cfg.mode = .staticSak ∧
      init aes cfg mi = (.ok, start)) (direction : Direction) :
    start.frameCrypto.toSaTable.Owned ∧
      ∃ tag, ∀ other, start.frameCrypto.toSaTable.Holds direction other →
        other = tag := by
  obtain ⟨cfg, mi, mode, initialised⟩ := mode
  obtain ⟨an, table⟩ := init_static mode initialised
  have rx (number : Fin 4)
      (valid : (start.frameCrypto.toSaTable.rxSak number).valid = true) :
      number = an := by
    by_contra other
    rw [table] at valid
    dsimp only at valid
    rw [Function.update_of_ne other] at valid
    exact Bool.noConfusion valid
  constructor
  · intro number valid
    cases rx number valid
    rw [table]
    dsimp only
    rw [Function.update_self]
    rfl
  · cases direction with
    | tx =>
        refine ⟨tagOf .tx start.frameCrypto.txSak.key an, ?_⟩
        rintro other ⟨key, number, rfl, -, same, -⟩
        rw [← same]
        rfl
    | rx =>
        refine ⟨tagOf .rx (start.frameCrypto.rxSak an).key an, ?_⟩
        rintro other ⟨key, number, rfl, valid, same, -⟩
        cases rx number valid
        rw [← same]
        rfl

/-! ## Steps -/

/-- An undisturbed context goes on with its packet numbers. -/
theorem Undisturbed.continues (undisturbed : Undisturbed start ctx)
    {call : Call} (harmless : Harmless call)
    (protects : direction = .rx → ctx.frameCrypto.replayProtect = true) :
    ctx.frameCrypto.toSaTable.Continues direction
      (Macsec.perform aes ctx call).1.frameCrypto.toSaTable := by
  have mode := undisturbed.notDisabled
  have idle {control : Control} (same : control.table = ctx.control.table) :
      ctx.frameCrypto.toSaTable.Continues direction control.table := by
    rw [same]
    exact .refl direction _
  have unkeyed : ctx.cfg.mode ≠ .mkaPsk := by
    rw [undisturbed.mode]
    exact Mode.noConfusion
  cases call with
  | output plain txMaxLen =>
      change ctx.frameCrypto.toSaTable.Continues direction
        (output aes ctx plain txMaxLen).1.frameCrypto.toSaTable
      rcases @output_cases aes ctx mode plain txMaxLen with
        ⟨ret, -, result⟩ | ⟨-, result⟩
      · rw [result]
        exact .refl direction _
      · rw [result]
        exact FrameCrypto.continues_encrypt aes ctx.frameCrypto plain txMaxLen
          direction
  | input frame plain rnd =>
      change ctx.frameCrypto.toSaTable.Continues direction
        (input aes ctx frame plain rnd).1.frameCrypto.toSaTable
      rcases @input_cases aes ctx mode frame plain rnd with
        ⟨isMka, result⟩ | ⟨-, secured, result⟩ | ⟨-, ret, -, result⟩
      · rw [result, undisturbed.inputMka_zero isMka (harmless isMka) rnd]
        exact .refl direction _
      · rw [result, (inputSecure_cases secured frame plain).1]
        exact FrameCrypto.continues_decrypt aes ctx.frameCrypto frame plain
          protects
      · rw [result]
        exact .refl direction _
  | tick nowMs =>
      refine idle ?_
      change (ctx.control.tick nowMs).2.table = _
      rw [Control.tick, if_neg (by exact unkeyed)]
  | buildControlFrame txMaxLen rnd =>
      change ctx.frameCrypto.toSaTable.Continues direction
        (buildControlFrame aes ctx txMaxLen rnd).1.frameCrypto.toSaTable
      rw [Macsec.buildControlFrame, if_pos unkeyed]
      exact .refl direction _
  | notifyControlTxSuccess nowMs =>
      refine idle ?_
      change (ctx.control.notifyControlTxSuccess nowMs).2.table = _
      rw [Control.notifyControlTxSuccess, if_pos (by exact unkeyed)]
  | notifyControlTxFailure =>
      refine idle ?_
      rw [Control.notifyControlTxFailure, if_pos (by exact unkeyed)]

/-! ## Runs -/

/-- What a static context keeps while it is undisturbed. -/
structure Keeps (direction : Direction) (start ctx : Ctx) : Prop where
  undisturbed : Undisturbed start ctx
  protects : direction = .rx → ctx.frameCrypto.replayProtect = true
  window : ctx.frameCrypto.replayWindow = start.frameCrypto.replayWindow

theorem Keeps.perform (keeps : Keeps direction start ctx) {call : Call}
    (harmless : Harmless call) :
    Keeps direction start (Macsec.perform aes ctx call).1 := by
  have continues := @Undisturbed.continues aes _ _ direction keeps.undisturbed
    call harmless keeps.protects
  exact ⟨(keeps.undisturbed.perform harmless).1,
    fun receives => continues.protect.trans (keeps.protects receives),
    continues.window.trans keeps.window⟩

/-- Every step of an undisturbed context is fair and uses the one tag. -/
theorem Keeps.fair (keeps : Keeps direction start ctx)
    (owned : start.frameCrypto.toSaTable.Owned) {tag : Tag}
    (tagged : ∀ other, start.frameCrypto.toSaTable.Holds direction other →
      other = tag)
    {call : Call} (harmless : Harmless call) :
    (∀ past, (ledger direction).Fair past ((machine aes).event ctx call)) ∧
      ∀ used, usedPn direction ((machine aes).event ctx call) = some used →
        used.1 = tag := by
  obtain ⟨undisturbed, protects, -⟩ := keeps
  have continues := @Undisturbed.continues aes _ _ direction undisturbed call
    harmless protects
  have ownedHere : ctx.frameCrypto.toSaTable.Owned := by
    intro an valid
    obtain ⟨-, sameAn, sameValid⟩ := undisturbed.keys.rx an
    rw [sameAn]
    exact owned an (sameValid ▸ valid)
  have takes := @takes_usedPn aes ctx direction undisturbed.notDisabled
    ownedHere protects call
  refine ⟨fun past => ⟨takes, fun tag _ holds => ?_⟩, fun used uses => ?_⟩
  · exact ⟨continues.keys.holds_iff.mp holds, fun pn => continues.spent⟩
  · exact tagged _ (undisturbed.keys.holds_iff.mp (takes used.1 used.2 uses).1)

/-- The packet numbers of a direction that the steps use. -/
def usedPns (direction : Direction)
    (events : List (Transition.Event Ctx Call Reply)) : List UInt32 :=
  (events.filterMap (usedPn direction)).map Prod.snd

theorem keeps_of_init {cfg : Config} {mi : Octets 12}
    (mode : cfg.mode = .staticSak)
    (initialised : init aes cfg mi = (.ok, start))
    (protects : direction = .rx → start.frameCrypto.replayProtect = true) :
    Keeps direction start start :=
  ⟨undisturbed_of_init mode initialised, protects, rfl⟩

/-- An undisturbed static context uses no packet number twice, and in increasing
order where it sends or its replay window is zero. -/
theorem harmless_usedPns (initialised : ∃ cfg mi, cfg.mode = .staticSak ∧
      init aes cfg mi = (.ok, start))
    (protects : direction = .rx → start.frameCrypto.replayProtect = true)
    {calls : List Call} (harmless : ∀ call ∈ calls, Harmless call) :
    (usedPns direction ((machine aes).events start calls)).Nodup ∧
      ((direction = .rx → start.frameCrypto.replayWindow = 0) →
        (usedPns direction ((machine aes).events start calls)).Pairwise
          (· < ·)) := by
  obtain ⟨owned, tag, tagged⟩ := exists_tag initialised direction
  obtain ⟨cfg, mi, mode, result⟩ := initialised
  have steps : ∀ event ∈ (machine aes).events start calls,
      Keeps direction start event.before ∧
        (∀ past, (ledger direction).Fair past event) ∧
        ∀ used, usedPn direction event = some used → used.1 = tag := by
    refine @Transition.Machine.forall_guarded _ _ _ (machine aes)
      (Keeps direction start) (fun event => Harmless event.input) _ ?_ ?_ _
      (keeps_of_init mode result protects) calls ?_
    · exact fun ctx call keeps harmless => keeps.perform harmless
    · exact fun ctx call keeps harmless =>
        ⟨keeps, keeps.fair owned tagged harmless⟩
    · exact fun event member =>
        harmless _ (Transition.Machine.input_mem_of_mem _ member)
  have fair : Transition.Guarded (ledger direction).Fair
      ((machine aes).events start calls) := by
    intro past event rest split
    refine (steps event ?_).2.1 past
    rw [split]
    exact List.mem_append_right past List.mem_cons_self
  have oneTag : ∀ used ∈
      ((machine aes).events start calls).filterMap (usedPn direction),
      used.1 = tag := by
    intro used member
    obtain ⟨event, inEvents, uses⟩ := List.mem_filterMap.mp member
    exact (steps event inEvents).2.2 used uses
  constructor
  · refine (Transition.Ledger.nodup_uses fair).map_on ?_
    rintro ⟨tag, pn⟩ first ⟨other, number⟩ second same
    cases (oneTag _ first).trans (oneTag _ second).symm
    cases same
    rfl
  · intro window
    have closed : ∀ event ∈ (machine aes).events start calls,
        (ledger direction).Closed event := by
      intro event member tag high low spent below key an same installed
      have past := spent key an same installed
      have keeps := (steps event member).1
      cases direction with
      | tx =>
          refine past.imp id fun reached => ?_
          exact UInt32.lt_of_le_of_lt (UInt32.not_lt.mp below) reached
      | rx =>
          have strict : event.before.frameCrypto.toSaTable.replayWindow = 0 :=
            keeps.window.trans (window rfl)
          intro nonzero
          have recorded : FrameCrypto.Recorded _ _ high :=
            past fun none => nonzero (UInt32.le_zero_iff.mp
              (none ▸ UInt32.not_lt.mp below))
          unfold FrameCrypto.Recorded at recorded ⊢
          rw [if_pos strict] at recorded ⊢
          exact recorded.imp_left
            (UInt32.lt_of_le_of_lt (UInt32.not_lt.mp below))
    apply List.pairwise_map.mpr
    refine (Transition.Ledger.pairwise_uses fair closed).imp_of_mem ?_
    intro first second inFirst inSecond grows
    exact grows ((oneTag _ inFirst).trans (oneTag _ inSecond).symm)

/-- A static context uses no packet number twice, and in increasing order where
it sends or its replay window is zero, whatever it receives. -/
theorem static_usedPns (initialised : ∃ cfg mi, cfg.mode = .staticSak ∧
      init aes cfg mi = (.ok, start))
    (protects : direction = .rx → start.frameCrypto.replayProtect = true)
    (calls : List Call) :
    (usedPns direction ((machine aes).events start calls)).Nodup ∧
      ((direction = .rx → start.frameCrypto.replayWindow = 0) →
        (usedPns direction ((machine aes).events start calls)).Pairwise
          (· < ·)) := by
  obtain ⟨cfg, mi, mode, result⟩ := id initialised
  obtain ⟨harmless, survive, same⟩ :=
    @Undisturbed.exists_harmless aes _ _ (undisturbed_of_init mode result)
      direction calls
  rw [usedPns, same]
  exact harmless_usedPns initialised protects survive

end Macsec
