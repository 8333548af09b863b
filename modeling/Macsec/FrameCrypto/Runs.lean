import Macsec.Foundation.Machine
import Macsec.FrameCrypto.RoundTrip
import Macsec.FrameCrypto.Window

/-!
# Runs of a frame protection context

The functions of `frame_crypto.h`, called in any order.  Two contexts that such
calls lead to understand each other: a frame that one of them protects is
opened by the other to what was protected.  An association that stays installed
accepts the numbers that the specification of the replay window allows.
-/

namespace Macsec

namespace FrameCrypto

variable {aes : BlockCipher} {ctx : Ctx}

/-! ## Calls -/

/-- A call of a function of `frame_crypto.h` with its arguments.
`protectReplay` stands for the assignment of the two replay fields, which the
interface leaves to its callers. -/
inductive Call
  | setTxSak (sak : Sak)
  | setRxSak (sak : Sak)
  | removeTxSak
  | removeRxSak (an : Fin 4)
  | protectReplay (replayProtect : Bool) (replayWindow : UInt32)
  | encrypt (plain : Bytes) (secureMaxLen : Nat)
  | decrypt (secure plain : Bytes)

/-- Apply a function on the associations to a context. -/
def Ctx.lift (step : SaTable → Err × SaTable) (ctx : Ctx) :
    Ctx × (Err × Bytes) :=
  ({ ctx with toSaTable := (step ctx.toSaTable).2 },
    ((step ctx.toSaTable).1, []))

/-- The effect of a call, with its return code and the frame it yields. -/
def perform (aes : BlockCipher) (ctx : Ctx) : Call → Ctx × (Err × Bytes)
  | .setTxSak sak => ctx.lift (FrameCrypto.setTxSak · sak)
  | .setRxSak sak => ctx.lift (FrameCrypto.setRxSak · sak)
  | .removeTxSak => ctx.lift FrameCrypto.removeTxSak
  | .removeRxSak an => ctx.lift (FrameCrypto.removeRxSak · an)
  | .protectReplay replayProtect replayWindow =>
      ({ ctx with
          replayProtect := replayProtect
          replayWindow := replayWindow },
        (.ok, []))
  | .encrypt plain secureMaxLen =>
      let (ret, ctx, secure) := FrameCrypto.encrypt aes ctx plain secureMaxLen
      (ctx, (ret, secure))
  | .decrypt secure plain =>
      let (ret, ctx, plain, len) := FrameCrypto.decrypt aes ctx secure plain
      (ctx, (ret, plain.take len))

/-- The machine whose inputs are the calls of `frame_crypto.h`. -/
def machine (aes : BlockCipher) :
    Transition.Machine Ctx Call (Err × Bytes) where
  step := perform aes

/-- The contexts some sequence of calls leads to from an initialised one. -/
def Reachable (aes : BlockCipher) (ctx : Ctx) : Prop :=
  ∃ localSci, (machine aes).Reachable (init localSci) ctx

/-! ## Invariants -/

theorem setTxSak_rest (table : SaTable) (sak : Sak) :
    ∃ txSak, (setTxSak table sak).2 = { table with txSak := txSak } := by
  unfold setTxSak
  split_ifs
  all_goals exact ⟨_, rfl⟩

theorem setRxSak_rest (table : SaTable) (sak : Sak) :
    (setRxSak table sak).2 = table ∨
      (setRxSak table sak).2 =
        { table with
          rxSak := Function.update table.rxSak sak.an (normalizeRx sak) } := by
  unfold setRxSak
  split_ifs
  · exact Or.inl rfl
  · exact Or.inl rfl
  · exact Or.inr rfl

/-- What no call changes or breaks. -/
structure Ctx.Sound (aes : BlockCipher) (ctx : Ctx) : Prop where
  cached : ctx.Cached aes
  enabled : ctx.encrypt = true

theorem Ctx.Sound.perform (sound : ctx.Sound aes) (call : Call) :
    (perform aes ctx call).1.Sound aes := by
  cases call with
  | setTxSak sak =>
      obtain ⟨txSak, result⟩ := setTxSak_rest ctx.toSaTable sak
      change Ctx.Sound aes
        { ctx with toSaTable := (setTxSak ctx.toSaTable sak).2 }
      rw [result]
      exact ⟨sound.cached, sound.enabled⟩
  | setRxSak sak =>
      change Ctx.Sound aes
        { ctx with toSaTable := (setRxSak ctx.toSaTable sak).2 }
      rcases setRxSak_rest ctx.toSaTable sak with result | result
      all_goals
        rw [result]
        exact ⟨sound.cached, sound.enabled⟩
  | removeTxSak =>
      exact ⟨fun valid => Bool.noConfusion valid, sound.enabled⟩
  | removeRxSak an =>
      exact ⟨fun valid => Bool.noConfusion valid, sound.enabled⟩
  | protectReplay replayProtect replayWindow =>
      exact ⟨sound.cached, sound.enabled⟩
  | encrypt plain secureMaxLen =>
      refine ⟨encrypt_cached sound.cached plain secureMaxLen, ?_⟩
      change (encrypt aes ctx plain secureMaxLen).2.1.encrypt = true
      rcases encrypt_cases aes ctx plain secureMaxLen with
        ⟨-, -, initialized, cached, valid, table⟩ |
        ⟨-, -, -, ⟨initialized, cached, valid, table⟩, -⟩
      all_goals
        rw [table]
        exact sound.enabled
  | decrypt secure plain =>
      refine ⟨decrypt_cached sound.cached secure plain, ?_⟩
      change (decrypt aes ctx secure plain).2.1.encrypt = true
      rcases decrypt_cases aes ctx secure plain with
        ⟨-, initialized, cached, valid, table⟩ |
        ⟨-, -, -, -, initialized, cached, valid, table⟩
      all_goals
        rw [table]
        exact sound.enabled

theorem Reachable.sound (reachable : Reachable aes ctx) : ctx.Sound aes := by
  obtain ⟨localSci, run⟩ := reachable
  refine run.invariant (fun ctx => ctx.Sound aes) ?_
    fun ctx call sound => sound.perform call
  exact ⟨fun valid => Bool.noConfusion valid, rfl⟩

/-! ## A fixed association -/

/-- An association under a fixed key. -/
def fixedSak : Sak :=
  { Sak.cleared with
    key := List.replicate 16 1
    an := 2
    nextPn := 7
    valid := true }

/-- A context that holds the association in both directions. -/
def fixedCtx (aes : BlockCipher) : Ctx :=
  (machine aes).final (init (Octets.zero 8))
    [.protectReplay true 64, .setTxSak fixedSak, .setRxSak fixedSak]

theorem reachable_fixedCtx (aes : BlockCipher) :
    Reachable aes (fixedCtx aes) :=
  ⟨Octets.zero 8, _, rfl⟩

/-! ## Round trip -/

/-- A frame that one context protects is 32 octets longer, and another context
with the same key on the association, to whose replay state the packet number is
acceptable, opens it to the octets that were protected. -/
theorem protected_frame_round_trip {sender receiver : Ctx}
    (sends : Reachable aes sender) (receives : Reachable aes receiver)
    {plain buffer : Bytes} {secureMaxLen : Nat}
    (long : 14 ≤ plain.length) (short : plain.length ≤ 1600)
    (txValid : sender.txSak.valid = true)
    (txSize : sender.txSak.key.length = 16 ∨ sender.txSak.key.length = 32)
    (pn : sender.txSak.nextPn ≠ 0)
    (rxValid : (receiver.rxSak sender.txSak.an).valid = true)
    (sameKey : (receiver.rxSak sender.txSak.an).key = sender.txSak.key)
    (notExhausted :
      (receiver.rxSak sender.txSak.an).replayExhausted = false)
    (accepts :
      replayCheck receiver.toSaTable (receiver.rxSak sender.txSak.an)
        sender.txSak.nextPn = .ok)
    (room : plain.length + 32 ≤ secureMaxLen)
    (buffered : plain.length ≤ buffer.length) :
    let sealing := encrypt aes sender plain secureMaxLen
    let opening := decrypt aes receiver sealing.2.2 buffer
    sealing.1 = .ok ∧ sealing.2.2.length = plain.length + 32 ∧
      opening.1 = .ok ∧ opening.2.2.2 = plain.length ∧
      opening.2.2.1.take opening.2.2.2 = plain := by
  have sizes :
      maxPlainSize = 1600 ∧ ethHdrLen = 14 ∧ secTagLen = 14 ∧ aadLen = 28 ∧
        icvLen = 16 :=
    ⟨rfl, rfl, rfl, rfl, rfl⟩
  have keySize : keyLenValid sender.txSak.key.length = true := by
    simpa [keyLenValid] using txSize
  have sendable : Sendable sender.toSaTable plain.length secureMaxLen := by
    refine ⟨?_, sends.sound.enabled, by omega, by omega, by omega⟩
    rw [readyTx, txValid, keySize]
    simpa using pn
  have receivable :
      Receivable receiver.toSaTable sender.txSak.an sender.txSak.nextPn
        plain.length buffer.length := by
    refine ⟨?_, pn, accepts, by omega, by omega, buffered⟩
    rw [readyRx, rxValid, sameKey, keySize, notExhausted]
    rfl
  obtain ⟨sealedOk, form⟩ := encrypt_eq sends.sound.cached sendable
  obtain ⟨-, -, sameAn, addresses⟩ :=
    @sealFrame_fields aes sender.txSak.key sender.txSak.an
      sender.txSak.nextPn sender.localSci plain
  obtain ⟨length, -, -, -⟩ :=
    @sealFrame_layout aes sender.txSak.key sender.txSak.an
      sender.txSak.nextPn sender.localSci plain short
  have checked :=
    @decryptCheck_sealFrame aes _ sender.txSak.key _ _ sender.localSci plain _
      receivable
  dsimp only
  rw [form]
  generalize result : sealFrame aes sender.txSak.key sender.txSak.an
    sender.txSak.nextPn sender.localSci plain = secure at *
  have opens : Opens aes (receiver.rxSak (frameAn secure)).key secure
      (plain.drop 12) := by
    rw [sameAn, sameKey, ← result]
    exact (opens_sealFrame _ _ _ _ short _).mpr rfl
  have ok := decrypt_of_opens receives.sound.cached checked opens
  obtain ⟨payload, opened, content⟩ := decrypt_ok receives.sound.cached ok
  have same : payload = plain.drop 12 := opened.2.symm.trans opens.2
  refine ⟨sealedOk, by omega, ok, ?_, ?_⟩
  · rw [decrypt_len ok]
    omega
  · rw [content, same, addresses]
    exact take_append_drop_addresses (by omega)

/-- A frame just above the boundary of the short length survives. -/
theorem frame_of_61_octets_round_trip :
    let sender := fixedCtx BlockCipher.null
    let plain := List.replicate 61 0
    let sealing := encrypt BlockCipher.null sender plain 1700
    let opening :=
      decrypt BlockCipher.null sender sealing.2.2 (List.replicate 1600 0)
    sealing.1 = .ok ∧ sealing.2.2.length = 61 + 32 ∧ opening.1 = .ok ∧
      opening.2.2.2 = 61 ∧ opening.2.2.1.take opening.2.2.2 = plain :=
  protected_frame_round_trip (reachable_fixedCtx _) (reachable_fixedCtx _)
    (by decide) (by decide) rfl (Or.inl rfl) (by decide) rfl rfl rfl rfl
    (by decide) (by rw [List.length_replicate, List.length_replicate]; decide)

/-! ## The replay window over a run -/

/-- The association is neither replaced nor removed by a call, and the replay
fields stay as they are. -/
def Call.Leaves (an : Fin 4) : Call → Prop
  | .setRxSak sak => sak.an ≠ an
  | .removeRxSak other => other ≠ an
  | .protectReplay _ _ => False
  | _ => True

/-- A step of a run of a context. -/
abbrev Event := Transition.Event Ctx Call (Err × Bytes)

/-- The packet number that a step accepts on an association. -/
def acceptedPn (an : Fin 4) (event : Event) : Option Nat :=
  match event.input with
  | .decrypt secure _ =>
      if frameAn secure = an ∧ event.output.1 = .ok then
        some (framePn secure).toNat
      else
        none
  | _ => none

/-- The packet numbers a run accepted on an association, the last one first. -/
def acceptedPns (an : Fin 4) (events : List Event) : List Nat :=
  events.reverse.filterMap (acceptedPn an)

theorem acceptedPns_concat (an : Fin 4) (events : List Event)
    (event : Event) :
    acceptedPns an (events ++ [event]) =
      (acceptedPn an event).toList ++ acceptedPns an events := by
  rw [acceptedPns, List.reverse_append, List.reverse_singleton,
    List.filterMap_append, acceptedPns]
  cases accepted : acceptedPn an event with
  | none => simp [accepted]
  | some pn => simp [accepted]

/-- An association holds a key and has accepted certain numbers. -/
structure Holds (key : Bytes) (lowest : Nat) (replayWindow : UInt32)
    (an : Fin 4) (accepted : List Nat) (ctx : Ctx) : Prop where
  protect : ctx.replayProtect = true
  window : ctx.replayWindow = replayWindow
  valid : (ctx.rxSak an).valid = true
  key : (ctx.rxSak an).key = key
  inStep : InStep replayWindow lowest accepted (ctx.rxSak an)

variable {key : Bytes} {lowest : Nat} {replayWindow : UInt32} {an : Fin 4}
  {accepted : List Nat}

/-- What an association holds depends on the association and on the replay
fields only. -/
theorem Holds.congr {after : Ctx}
    (holds : Holds key lowest replayWindow an accepted ctx)
    (protect : after.replayProtect = ctx.replayProtect)
    (window : after.replayWindow = ctx.replayWindow)
    (same : after.rxSak an = ctx.rxSak an) :
    Holds key lowest replayWindow an accepted after where
  protect := protect.trans holds.protect
  window := window.trans holds.window
  valid := same ▸ holds.valid
  key := same ▸ holds.key
  inStep := same ▸ holds.inStep

/-- Opening a frame keeps the associations in step with the accepted
numbers. -/
theorem Holds.decrypt (bounded : replayWindow ≤ maxReplayWindow)
    (holds : Holds key lowest replayWindow an accepted ctx)
    (secure plain : Bytes) :
    Holds key lowest replayWindow an
      ((acceptedPn an
          ((machine aes).event ctx (.decrypt secure plain))).toList ++ accepted)
      (decrypt aes ctx secure plain).2.1 := by
  have outcome :
      acceptedPn an ((machine aes).event ctx (.decrypt secure plain)) =
        if frameAn secure = an ∧
            (FrameCrypto.decrypt aes ctx secure plain).1 = .ok then
          some (framePn secure).toNat
        else
          none := rfl
  rw [outcome]
  rcases decrypt_cases aes ctx secure plain with
    ⟨refused, initialized, cached, valid, table⟩ |
    ⟨ok, ready, nonzero, accepts, initialized, cached, valid, table⟩
  · rw [if_neg (fun both => refused both.2)]
    refine holds.congr ?_ ?_ ?_
    all_goals
      rw [table]
      rfl
  · rw [if_pos holds.protect] at table
    by_cases here : frameAn secure = an
    · subst here
      rw [if_pos ⟨rfl, ok⟩]
      have same :
          (FrameCrypto.decrypt aes ctx secure plain).2.1.rxSak
              (frameAn secure) =
            replayCommit ctx.toSaTable (ctx.rxSak (frameAn secure))
              (framePn secure) := by
        rw [table]
        exact Function.update_self ..
      obtain ⟨sameKey, -, sameValid⟩ :=
        sameKey_replayCommit ctx.toSaTable (ctx.rxSak (frameAn secure))
          (framePn secure)
      have inStep := holds.inStep
      rw [← holds.window] at inStep bounded
      refine ⟨?_, ?_, ?_, ?_, ?_⟩
      · rw [table]
        exact holds.protect
      · rw [table]
        exact holds.window
      · rw [same, sameValid]
        exact holds.valid
      · rw [same, sameKey]
        exact holds.key
      · rw [same, ← holds.window]
        exact inStep.commit holds.protect bounded accepts
    · rw [if_neg (fun both => here both.1)]
      refine holds.congr ?_ ?_ ?_
      · rw [table]
        rfl
      · rw [table]
        rfl
      · rw [table]
        exact Function.update_of_ne (Ne.symm here) _ _

/-- Every call that leaves an association in place keeps it in step with the
accepted numbers. -/
theorem Holds.perform (bounded : replayWindow ≤ maxReplayWindow)
    (holds : Holds key lowest replayWindow an accepted ctx) {call : Call}
    (leaves : call.Leaves an) :
    Holds key lowest replayWindow an
      ((acceptedPn an ((machine aes).event ctx call)).toList ++ accepted)
      (perform aes ctx call).1 := by
  cases call with
  | setTxSak sak =>
      obtain ⟨txSak, result⟩ := setTxSak_rest ctx.toSaTable sak
      change Holds key lowest replayWindow an accepted
        { ctx with toSaTable := (setTxSak ctx.toSaTable sak).2 }
      rw [result]
      exact holds.congr rfl rfl rfl
  | setRxSak sak =>
      change Holds key lowest replayWindow an accepted
        { ctx with toSaTable := (setRxSak ctx.toSaTable sak).2 }
      rcases setRxSak_rest ctx.toSaTable sak with result | result
      · rw [result]
        exact holds
      · rw [result]
        exact holds.congr rfl rfl (Function.update_of_ne (Ne.symm leaves) _ _)
  | removeTxSak => exact holds.congr rfl rfl rfl
  | removeRxSak other =>
      exact holds.congr rfl rfl (Function.update_of_ne (Ne.symm leaves) _ _)
  | protectReplay replayProtect replayWindow => exact leaves.elim
  | encrypt plain secureMaxLen =>
      change Holds key lowest replayWindow an accepted
        (encrypt aes ctx plain secureMaxLen).2.1
      rcases encrypt_cases aes ctx plain secureMaxLen with
        ⟨-, -, initialized, cached, valid, table⟩ |
        ⟨-, -, -, ⟨initialized, cached, valid, table⟩, -⟩
      all_goals
        refine holds.congr ?_ ?_ ?_
        all_goals
          rw [table]
          rfl
  | decrypt secure plain => exact holds.decrypt bounded secure plain

/-- Calls that leave an association in place keep it in step with the numbers
accepted in the run. -/
theorem Holds.run (bounded : replayWindow ≤ maxReplayWindow)
    (holds : Holds key lowest replayWindow an accepted ctx) (calls : List Call)
    (leaves : ∀ call ∈ calls, call.Leaves an) :
    Holds key lowest replayWindow an
      (acceptedPns an ((machine aes).events ctx calls) ++ accepted)
      ((machine aes).final ctx calls) := by
  induction calls using List.reverseRecOn with
  | nil => exact holds
  | append_singleton calls call inductionHypothesis =>
      have earlier := inductionHypothesis fun call member =>
        leaves call (List.mem_append_left _ member)
      rw [Transition.Machine.events_concat, Transition.Machine.final_concat,
        acceptedPns_concat, List.append_assoc]
      exact earlier.perform bounded
        (leaves call (List.mem_append_right _ List.mem_cons_self))

/-- A fresh association has accepted nothing. -/
theorem holds_of_installed {before : Ctx} {sak : Sak} {table : SaTable}
    (isInstalled : setRxSak before.toSaTable sak = (.ok, table))
    (none : sak.highestReceivedPn = 0) (empty : sak.replayBitmap = 0)
    (alive : sak.replayExhausted = false)
    (protect : before.replayProtect = true) :
    keyLenValid sak.key.length = true ∧
      Holds sak.key sak.lowestAcceptablePn.toNat before.replayWindow sak.an []
        { before with toSaTable := table } := by
  unfold setRxSak at isInstalled
  split_ifs at isInstalled with invalid size
  · cases isInstalled
  · cases isInstalled
  · cases isInstalled
    refine ⟨by simpa using size, ?_⟩
    have normalized :
        (normalizeRx sak).valid = sak.valid ∧
          (normalizeRx sak).key = sak.key := by
      unfold normalizeRx
      dsimp only
      split_ifs
      all_goals exact ⟨rfl, rfl⟩
    have same :
        Function.update before.rxSak sak.an (normalizeRx sak) sak.an =
          normalizeRx sak :=
      Function.update_self ..
    refine ⟨protect, rfl, ?_, ?_, ?_⟩
    · dsimp only
      rw [same, normalized.1]
      simpa using invalid
    · dsimp only
      rw [same, normalized.2]
    · dsimp only
      rw [same]
      exact inStep_normalizeRx before.replayWindow none empty alive

/-- A well-formed frame that opens under the key of an association is accepted
if and only if its packet number is acceptable. -/
theorem Holds.decrypt_ok_iff (bounded : replayWindow ≤ maxReplayWindow)
    (holds : Holds key lowest replayWindow an accepted ctx)
    (sound : ctx.Sound aes) (size : keyLenValid key.length = true)
    {secure plain payload : Bytes} (selects : frameAn secure = an)
    (wellFormed : WellFormed secure plain.length)
    (opens : Opens aes key secure payload) :
    (FrameCrypto.decrypt aes ctx secure plain).1 = .ok ↔
      Acceptable lowest replayWindow.toNat accepted (framePn secure).toNat := by
  obtain ⟨protect, rfl, valid, rfl, inStep⟩ := holds
  subst selects
  rw [← inStep.check_iff protect bounded]
  constructor
  · intro ok
    exact ((decryptCheck_iff wellFormed).mp (decryptCheck_of_ok ok)).2
  · intro accepts
    refine decrypt_of_opens sound.cached
      ((decryptCheck_iff wellFormed).mpr ⟨?_, accepts⟩) opens
    have notExhausted := (not_exhausted_of_accepted protect accepts).1
    rw [readyRx, valid, size]
    simpa using notExhausted

/-- After any calls that leave a freshly installed association in place, a
well-formed frame that opens under its key is accepted if and only if its packet
number is acceptable, given the numbers accepted before. -/
theorem accepted_iff_acceptable {before : Ctx}
    (reachable : Reachable aes before) {sak : Sak} {table : SaTable}
    (isInstalled : setRxSak before.toSaTable sak = (.ok, table))
    (none : sak.highestReceivedPn = 0) (empty : sak.replayBitmap = 0)
    (alive : sak.replayExhausted = false)
    (protect : before.replayProtect = true)
    (bounded : before.replayWindow ≤ maxReplayWindow)
    (calls : List Call) (leaves : ∀ call ∈ calls, call.Leaves sak.an)
    {secure plain payload : Bytes} (selects : frameAn secure = sak.an)
    (wellFormed : WellFormed secure plain.length)
    (opens : Opens aes sak.key secure payload) :
    let start := { before with toSaTable := table }
    (decrypt aes ((machine aes).final start calls) secure plain).1 = .ok ↔
      Acceptable sak.lowestAcceptablePn.toNat before.replayWindow.toNat
        (acceptedPns sak.an ((machine aes).events start calls))
        (framePn secure).toNat := by
  intro start
  obtain ⟨size, fresh⟩ :=
    holds_of_installed isInstalled none empty alive protect
  have holds := @Holds.run aes _ _ _ _ _ _ bounded fresh calls leaves
  rw [List.append_nil] at holds
  have startSound : start.Sound aes := by
    obtain ⟨-, rfl⟩ := Prod.mk.inj isInstalled
    exact reachable.sound.perform (.setRxSak sak)
  have sound : ((machine aes).final start calls).Sound aes :=
    Transition.Machine.Reachable.invariant (fun ctx : Ctx => ctx.Sound aes)
      ⟨calls, rfl⟩ startSound fun _ call sound => sound.perform call
  exact holds.decrypt_ok_iff bounded sound size selects wellFormed opens

/-- A context whose replay window has four numbers. -/
def windowCtx : Ctx :=
  (machine BlockCipher.null).final (init (Octets.zero 8))
    [.protectReplay true 4]

/-- A frame under the fixed key. -/
def numberedFrame (pn : UInt32) : Bytes :=
  sealFrame BlockCipher.null fixedSak.key fixedSak.an pn (Octets.zero 8)
    (List.replicate 61 0)

/-- Such a frame is opened. -/
def openNumbered (pn : UInt32) : Call :=
  .decrypt (numberedFrame pn) (List.replicate 1600 0)

/-- A frame, a late one inside the window, and the first one again. -/
def lateCalls : List Call :=
  [openNumbered 10, openNumbered 8, openNumbered 10]

/-- After frame 10, frame 8 and frame 10 again, frame 7 is still accepted and so
is frame 12, but neither frame 8 again nor frame 6, which is too late. -/
theorem late_frame_accepted :
    let start :=
      { windowCtx with toSaTable := (setRxSak windowCtx.toSaTable fixedSak).2 }
    let after := (machine BlockCipher.null).final start lateCalls
    let accepts pn :=
      (decrypt BlockCipher.null after (numberedFrame pn)
        (List.replicate 1600 0)).1 = .ok
    accepts 7 ∧ accepts 12 ∧ ¬accepts 8 ∧ ¬accepts 6 := by
  intro start after accepts
  have verdict (pn : UInt32) (nonzero : pn ≠ 0) :
      accepts pn ↔ Acceptable 0 4 [8, 10] pn.toNat := by
    obtain ⟨-, number, an, -⟩ :
        _ ∧ framePn (numberedFrame pn) = pn ∧
          frameAn (numberedFrame pn) = fixedSak.an ∧ _ :=
      sealFrame_fields _ _ _ _ _
    have accepted :
        acceptedPns fixedSak.an
          ((machine BlockCipher.null).events start lateCalls) = [8, 10] := by
      decide +kernel
    have leaves : ∀ call ∈ lateCalls, call.Leaves fixedSak.an :=
      List.forall_mem_cons.mpr ⟨trivial, List.forall_mem_cons.mpr
        ⟨trivial, List.forall_mem_singleton.mpr trivial⟩⟩
    have wellFormed :
        WellFormed (numberedFrame pn) (List.replicate 1600 (0 : UInt8)).length :=
      wellFormed_sealFrame nonzero (by decide) (by decide)
        (by rw [List.length_replicate, List.length_replicate]; decide)
    have opens :
        Opens BlockCipher.null fixedSak.key (numberedFrame pn)
          ((List.replicate 61 0).drop 12) :=
      (opens_sealFrame _ _ _ _ (by decide) _).mpr rfl
    have isInstalled :
        setRxSak windowCtx.toSaTable fixedSak =
          (.ok, (setRxSak windowCtx.toSaTable fixedSak).2) := rfl
    have same := accepted_iff_acceptable ⟨Octets.zero 8, _, rfl⟩ isInstalled
      rfl rfl rfl rfl (by decide) _ leaves an wellFormed opens
    rw [number] at same
    exact same.trans (by rw [← accepted]; rfl)
  rw [verdict 7 (by decide), verdict 12 (by decide), verdict 8 (by decide),
    verdict 6 (by decide)]
  decide

end FrameCrypto

end Macsec
