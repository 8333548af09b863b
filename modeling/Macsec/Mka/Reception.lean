import Macsec.Foundation.Machine
import Macsec.Mka.Operations
import Macsec.Mka.Protocol

/-!
# Runs of a participant

A received frame is rejected, recognised as the participant's own, or accepted
as an authenticated MKPDU; which of these depends on the keys and the frame,
and the protocol state follows from it.  The functions of `mka.h`, called in any
order, keep the invariant.
-/

namespace Macsec

namespace Mka

/-! ## Classification of frames -/

/-- What a received frame amounts to. -/
inductive Received
  | rejected (ret : Err)
  | own
  | accepted (pdu : Mkpdu)

/-- Classify a received frame. -/
def classify (aes : BlockCipher) (ctx : Ctx) (frame : Bytes) : Received :=
  if !isEapolMka frame then
    .rejected .param
  else
    match parseBasic frame with
    | .error ret => .rejected ret
    | .ok basic =>
        if isOwnFrame ctx.toParticipant basic then
          .own
        else
          match (authenticate aes ctx frame basic).1 with
          | .ok => .accepted (decode aes ctx.crypto ctx.localMi frame basic)
          | ret => .rejected ret

/-- The effect of a classified frame on the protocol state. -/
def Participant.receive (ctx : Participant) (received : Received)
    (rnd : Octets 16) (nowMs : UInt32) : Err × Participant :=
  match received with
  | .rejected ret => (ret, ctx)
  | .own => (.ok, ctx)
  | .accepted pdu => ctx.processMkpdu pdu rnd nowMs

/-- A frame is rejected for a reason, or has room for its integrity check value
behind what the value covers. -/
theorem parseBasic_cases (frame : Bytes) :
    (∃ ret, ret ≠ .ok ∧ ret ≠ .notReady ∧ parseBasic frame = .error ret) ∨
      (14 + 4 + (readBasic frame).eapolLen - icvLen + icvLen ≤ frame.length ∧
        parseBasic frame = .ok (readBasic frame)) := by
  let outcome (result : Except Err Basic) : Prop :=
    (∃ ret, ret ≠ .ok ∧ ret ≠ .notReady ∧ result = .error ret) ∨
      (14 + 4 + (readBasic frame).eapolLen - icvLen + icvLen ≤ frame.length ∧
        result = .ok (readBasic frame))
  have buffer : outcome (.error .buffer) :=
    Or.inl ⟨_, Err.noConfusion, Err.noConfusion, rfl⟩
  have param : outcome (.error .param) :=
    Or.inl ⟨_, Err.noConfusion, Err.noConfusion, rfl⟩
  have unsupported : outcome (.error .unsupported) :=
    Or.inl ⟨_, Err.noConfusion, Err.noConfusion, rfl⟩
  change outcome (parseBasic frame)
  unfold parseBasic
  refine iteInduction (fun _ => buffer) fun _ => ?_
  refine iteInduction (fun _ => param) fun _ => ?_
  refine iteInduction (fun _ => unsupported) fun _ => ?_
  refine iteInduction (fun _ => buffer) fun _ => ?_
  refine iteInduction (fun _ => buffer) fun _ => ?_
  refine iteInduction (fun _ => buffer) fun _ => ?_
  refine iteInduction (fun _ => buffer) fun _ => ?_
  refine iteInduction (fun _ => buffer) fun fits => ?_
  refine iteInduction (fun _ => buffer) fun _ => ?_
  exact Or.inr ⟨Nat.not_lt.mp fits, rfl⟩

theorem parseBasic_ne_error_ok (frame : Bytes) :
    parseBasic frame ≠ .error .ok := by
  rcases parseBasic_cases frame with ⟨ret, notOk, -, result⟩ | ⟨-, result⟩
  · rw [result]
    exact fun same => notOk (Except.error.inj same)
  · rw [result]
    exact nofun

/-- A frame is never rejected with success. -/
theorem classify_ne_rejected_ok
    (aes : BlockCipher) (ctx : Ctx) (frame : Bytes) :
    classify aes ctx frame ≠ .rejected .ok := by
  unfold classify
  split
  next => exact fun equal => by cases equal
  next =>
      split
      next ret parsed =>
          intro equal
          cases equal
          exact parseBasic_ne_error_ok frame parsed
      next =>
          split
          next => exact Received.noConfusion
          next =>
              split
              next => exact Received.noConfusion
              next failed =>
                  intro equal
                  injection equal with equal
                  exact failed equal

/-- An accepted frame is an EAPOL-MKA frame that was parsed, is not an own one,
and was authenticated and decoded. -/
theorem checks_of_accepted {aes : BlockCipher} {ctx : Ctx} {frame : Bytes}
    {pdu : Mkpdu} (accepted : classify aes ctx frame = .accepted pdu) :
    ∃ basic, isEapolMka frame = true ∧ parseBasic frame = .ok basic ∧
      isOwnFrame ctx.toParticipant basic = false ∧
      (authenticate aes ctx frame basic).1 = .ok ∧
      pdu = decode aes ctx.crypto ctx.localMi frame basic := by
  unfold classify at accepted
  split at accepted
  next => cases accepted
  next isMka =>
      split at accepted
      next => cases accepted
      next basic parsed =>
          split at accepted
          next => cases accepted
          next foreign =>
              split at accepted
              next authentic =>
                  cases accepted
                  exact ⟨basic, by simpa using isMka, parsed,
                    Bool.eq_false_iff.mpr foreign, authentic, rfl⟩
              next => cases accepted

theorem verifyIcv_records
    (aes : BlockCipher) (ctx : Ctx) (frame : Bytes) (basic : Basic) :
    ∃ micWork,
      (verifyIcv aes ctx frame basic).2 = { ctx with micWork := micWork } := by
  unfold verifyIcv
  dsimp only
  split_ifs
  all_goals exact ⟨_, rfl⟩

/-- Verification touches the records of the last frame only. -/
theorem authenticate_records
    (aes : BlockCipher) (ctx : Ctx) (frame : Bytes) (basic : Basic) :
    ∃ lastIcvValid micWork,
      (authenticate aes ctx frame basic).2 =
        { ctx with lastIcvValid := lastIcvValid, micWork := micWork } := by
  obtain ⟨micWork, records⟩ :=
    verifyIcv_records aes { ctx with lastIcvValid := false } frame basic
  unfold authenticate
  dsimp only
  split
  next =>
      split
      next verified verification =>
          rw [verification] at records
          dsimp only at records
          exact ⟨true, micWork, by rw [records]⟩
      next ret verified failed verification =>
          rw [verification] at records
          exact ⟨false, micWork, records⟩
  next => exact ⟨false, ctx.micWork, rfl⟩

/-- Receiving a frame acts on the protocol state as its classification
says. -/
theorem input_receive
    (aes : BlockCipher) (ctx : Ctx) (frame : Bytes) (rnd : Octets 16)
    (nowMs : UInt32) :
    ((input aes ctx frame rnd nowMs).1,
      (input aes ctx frame rnd nowMs).2.toParticipant) =
      ctx.toParticipant.receive (classify aes ctx frame) rnd nowMs := by
  unfold input classify
  cases isEapolMka frame with
  | false => rfl
  | true =>
      cases parseBasic frame with
      | error ret => rfl
      | ok basic =>
          dsimp only
          cases isOwnFrame ctx.toParticipant basic with
          | true => rfl
          | false =>
              obtain ⟨lastIcvValid, micWork, records⟩ :=
                authenticate_records aes ctx frame basic
              rcases verification : authenticate aes ctx frame basic with
                ⟨ret, verified⟩
              rw [verification] at records
              dsimp only at records ⊢
              subst records
              cases ret with
              | ok => rfl
              | param | buffer | crypto | state | replay | unsupported | auth
              | timeout | notReady | busy => rfl

/-- An accepted frame is processed as what it says. -/
theorem input_accepted
    {aes : BlockCipher} {ctx : Ctx} {frame : Bytes} {pdu : Mkpdu}
    (accepted : classify aes ctx frame = .accepted pdu) (rnd : Octets 16)
    (nowMs : UInt32) :
    (input aes ctx frame rnd nowMs).1 =
        (ctx.toParticipant.processMkpdu pdu rnd nowMs).1 ∧
      (input aes ctx frame rnd nowMs).2.toParticipant =
        (ctx.toParticipant.processMkpdu pdu rnd nowMs).2 := by
  have received := input_receive aes ctx frame rnd nowMs
  rw [accepted, Prod.ext_iff] at received
  exact received

/-- Receiving a frame leaves the keys alone. -/
theorem input_keys
    (aes : BlockCipher) (ctx : Ctx) (frame : Bytes) (rnd : Octets 16)
    (nowMs : UInt32) :
    (input aes ctx frame rnd nowMs).2.crypto = ctx.crypto ∧
      (input aes ctx frame rnd nowMs).2.verifyIcv = ctx.verifyIcv := by
  unfold input
  cases isEapolMka frame with
  | false => exact ⟨rfl, rfl⟩
  | true =>
      cases parseBasic frame with
      | error ret => exact ⟨rfl, rfl⟩
      | ok basic =>
          dsimp only
          cases isOwnFrame ctx.toParticipant basic with
          | true => exact ⟨rfl, rfl⟩
          | false =>
              obtain ⟨lastIcvValid, micWork, records⟩ :=
                authenticate_records aes ctx frame basic
              rcases verification : authenticate aes ctx frame basic with
                ⟨ret, verified⟩
              rw [verification] at records
              dsimp only at records ⊢
              subst records
              cases ret with
              | ok => exact ⟨rfl, rfl⟩
              | param | buffer | crypto | state | replay | unsupported | auth
              | timeout | notReady | busy => exact ⟨rfl, rfl⟩

/-! ## Runs -/

/-- Apply a function on the protocol state to a context. -/
def Ctx.lift (step : Participant → Err × Participant) (ctx : Ctx) :
    Ctx × Err :=
  ({ ctx with toParticipant := (step ctx.toParticipant).2 },
    (step ctx.toParticipant).1)

/-- A call of a function of `mka.h` with its arguments and the random octets it
may draw. -/
inductive Call
  | input (frame : Bytes) (rnd : Octets 16) (nowMs : UInt32)
  | tick (nowMs : UInt32)
  | takeEvents
  | buildTxFrame (rnd : Octets 16) (frameMaxLen : Nat)
  | notifyTxSuccess (txMeta : TxMeta) (nowMs : UInt32)
  | notifyTxFailure (txMeta : TxMeta)
  | takeSakForInstall
  | notifySakInstalled (keyNumber : UInt32) (an : Fin 4) (directions : UInt8)
      (lowestPn : UInt32)
  | notifySakRetired (keyNumber : UInt32) (an : Fin 4)

/-- The effect of a call, with its return code. -/
def perform (aes : BlockCipher) (ctx : Ctx) : Call → Ctx × Err
  | .input frame rnd nowMs => (input aes ctx frame rnd nowMs).swap
  | .tick nowMs => ctx.lift (·.tick nowMs)
  | .takeEvents => ctx.lift fun participant => (.ok, participant.takeEvents.2)
  | .buildTxFrame rnd frameMaxLen =>
      ((buildTxFrame aes ctx rnd frameMaxLen).2.1,
        (buildTxFrame aes ctx rnd frameMaxLen).1)
  | .notifyTxSuccess txMeta nowMs => ctx.lift (·.notifyTxSuccess txMeta nowMs)
  | .notifyTxFailure txMeta =>
      ctx.lift fun participant => (.ok, participant.notifyTxFailure txMeta)
  | .takeSakForInstall =>
      ctx.lift fun participant =>
        (participant.takeSakForInstall.1, participant.takeSakForInstall.2.1)
  | .notifySakInstalled keyNumber an directions lowestPn =>
      ctx.lift (·.notifySakInstalled keyNumber an directions lowestPn)
  | .notifySakRetired keyNumber an => ctx.lift (·.notifySakRetired keyNumber an)

/-- The machine whose inputs are the calls of `mka.h`. -/
def machine (aes : BlockCipher) : Transition.Machine Ctx Call Err where
  step := perform aes

/-- The states some sequence of calls reaches from an initialised context. -/
def Reachable (aes : BlockCipher) (ctx : Ctx) : Prop :=
  ∃ cak ckn localMac portId priority interval mi start,
    init aes cak ckn localMac portId priority interval mi = (.ok, start) ∧
      (machine aes).Reachable start ctx

/-- Initialisation waits for a peer and schedules the first frame. -/
theorem completeInit_eq (localMac : Octets 6) (portId : UInt16)
    (priority : UInt8) (interval : UInt32) (mi : Octets 12) :
    (Participant.start localMac portId priority interval mi).completeInit =
      { Participant.start localMac portId priority interval mi with
        state := .waitPeer
        pendingEvents := EventFlag.txInitial
        txReasons := TxReason.initial } := by
  rw [Participant.completeInit, Participant.setState_of_allowed (by rfl)]
  simp [Participant.raiseEvents, Participant.scheduleTx, Participant.start,
    Participant.cleared]

/-- A participant starts at rest. -/
theorem resting_completeInit (localMac : Octets 6) (portId : UInt16)
    (priority : UInt8) (interval : UInt32) (mi : Octets 12) :
    (Participant.start localMac portId priority interval
      mi).completeInit.Resting := by
  rw [completeInit_eq]
  refine ⟨⟨⟨latestShape_cleared, oldShape_cleared⟩, ⟨rfl, rfl⟩, ?_, ?_⟩, ?_,
    ⟨SakState.noConfusion, SakState.noConfusion⟩⟩
  · change (1 : UInt32) ≠ 0
    decide
  · change hasFlag EventFlag.txInitial EventFlag.error = false
    decide
  · change hasFlag EventFlag.txInitial Participant.servicedEvents = false
    decide

/-- The context that initialisation with a pre-shared key leaves. -/
def initialCtx (aes : BlockCipher) (cak ckn : Bytes) (localMac : Octets 6)
    (portId : UInt16) (priority : UInt8) (interval : UInt32)
    (mi : Octets 12) : Ctx :=
  { Ctx.cleared with
    toParticipant :=
      (Participant.start localMac portId priority interval mi).completeInit
    crypto := MkaCrypto.keysOf aes cak ckn
    verifyIcv := true }

/-- Initialisation succeeds on keys and names of supported sizes. -/
theorem init_eq
    (aes : BlockCipher) {cak ckn : Bytes}
    (cakSize : MkaCrypto.keyLenValid cak.length = true)
    (cknPresent : ckn.length ≠ 0) (cknFits : ckn.length ≤ MkaCrypto.cknMaxLen)
    (localMac : Octets 6) (portId : UInt16) (priority : UInt8)
    (interval : UInt32) (mi : Octets 12) :
    init aes cak ckn localMac portId priority interval mi =
        (.ok, initialCtx aes cak ckn localMac portId priority interval mi) ∧
      (MkaCrypto.keysOf aes cak ckn).Keyed := by
  obtain ⟨keys, set, derived, keyed⟩ :=
    MkaCrypto.exists_keyed aes cakSize cknPresent cknFits
  have material :
      MkaCrypto.keysOf aes cak ckn =
        { psk := { cak, ckn, valid := true }, keys := keys } := by
    rw [MkaCrypto.keysOf, set, derived]
  refine ⟨?_, material ▸ keyed⟩
  rw [init, set]
  dsimp only
  rw [derived, initialCtx, material]

/-- A successful initialisation had keys and a name of supported sizes. -/
theorem sizes_of_init
    {aes : BlockCipher} {cak ckn : Bytes} {localMac : Octets 6}
    {portId : UInt16} {priority : UInt8} {interval : UInt32} {mi : Octets 12}
    {start : Ctx}
    (initialised :
      init aes cak ckn localMac portId priority interval mi = (.ok, start)) :
    MkaCrypto.keyLenValid cak.length = true ∧ ckn.length ≠ 0 ∧
      ckn.length ≤ MkaCrypto.cknMaxLen := by
  apply @MkaCrypto.setPsk_sizes MkaCrypto.init
  revert initialised
  unfold init
  dsimp only
  rcases MkaCrypto.setPsk MkaCrypto.init cak ckn with ⟨ret, crypto⟩
  intro initialised
  cases ret with
  | ok => rfl
  | param | buffer | crypto | state | replay | unsupported | auth | timeout
  | notReady | busy => cases initialised

/-- A successful initialisation leaves the initial context with its keys. -/
theorem init_ok
    {aes : BlockCipher} {cak ckn : Bytes} {localMac : Octets 6}
    {portId : UInt16} {priority : UInt8} {interval : UInt32} {mi : Octets 12}
    {start : Ctx}
    (initialised :
      init aes cak ckn localMac portId priority interval mi = (.ok, start)) :
    start = initialCtx aes cak ckn localMac portId priority interval mi ∧
      start.crypto.Keyed := by
  obtain ⟨cakSize, cknPresent, cknFits⟩ := sizes_of_init initialised
  obtain ⟨result, keyed⟩ :=
    init_eq aes cakSize cknPresent cknFits localMac portId priority interval mi
  rw [result] at initialised
  cases initialised
  exact ⟨rfl, keyed⟩

/-- A received frame keeps the invariant. -/
theorem Participant.receive_inv {ctx : Participant} (inv : ctx.Inv)
    (received : Received) (rnd : Octets 16) (nowMs : UInt32) :
    (ctx.receive received rnd nowMs).2.Inv := by
  cases received with
  | rejected ret => exact inv
  | own => exact inv
  | accepted pdu => exact ctx.processMkpdu_inv inv pdu rnd nowMs

/-- Building a frame changes the protocol state only by generating a SAK that is
due. -/
theorem buildTxFrame_participant
    (aes : BlockCipher) (ctx : Ctx) (rnd : Octets 16) (frameMaxLen : Nat) :
    (buildTxFrame aes ctx rnd frameMaxLen).2.1 = ctx ∨
      (buildTxFrame aes ctx rnd frameMaxLen).2.1 =
        { ctx with toParticipant := (ctx.toParticipant.ensureForTx rnd).2 } := by
  unfold buildTxFrame
  split
  next => exact Or.inl rfl
  next =>
      split
      next => exact Or.inl rfl
      next =>
          split
          next => exact Or.inl rfl
          next =>
              refine Or.inr ?_
              rcases ctx.toParticipant.ensureForTx rnd with ⟨ret, participant⟩
              cases ret with
              | ok =>
                  dsimp only
                  split
                  next =>
                      split
                      next => rfl
                      next => rfl
                  next => rfl
              | param | buffer | crypto | state | replay | unsupported | auth
              | timeout | notReady | busy => rfl

/-- Every call keeps the invariant. -/
theorem perform_inv {aes : BlockCipher} {ctx : Ctx}
    (inv : ctx.toParticipant.Inv) (call : Call) :
    (perform aes ctx call).1.toParticipant.Inv := by
  cases call with
  | input frame rnd nowMs =>
      have received :=
        congrArg Prod.snd (input_receive aes ctx frame rnd nowMs)
      change (input aes ctx frame rnd nowMs).2.toParticipant.Inv
      rw [show (input aes ctx frame rnd nowMs).2.toParticipant = _ from
        received]
      exact Participant.receive_inv inv _ rnd nowMs
  | tick nowMs => exact Participant.tick_inv inv nowMs
  | takeEvents =>
      exact ⟨inv.slots, inv.peer, inv.nextKeyNumber, hasFlag_zero _⟩
  | buildTxFrame rnd frameMaxLen =>
      change (buildTxFrame aes ctx rnd frameMaxLen).2.1.toParticipant.Inv
      rcases buildTxFrame_participant aes ctx rnd frameMaxLen with
        same | generated
      · rw [same]
        exact inv
      · rw [generated]
        exact (Participant.ensureForTx_keeps inv rnd).inv
  | notifyTxSuccess txMeta nowMs =>
      exact Participant.notifyTxSuccess_inv inv txMeta nowMs
  | notifyTxFailure txMeta =>
      exact ⟨inv.slots, inv.peer, inv.nextKeyNumber, inv.noError⟩
  | takeSakForInstall => exact Participant.takeSakForInstall_inv inv
  | notifySakInstalled keyNumber an directions lowestPn =>
      exact Participant.notifySakInstalled_inv inv keyNumber an directions
        lowestPn
  | notifySakRetired keyNumber an =>
      exact Participant.notifySakRetired_inv inv keyNumber an

/-- Every reachable participant satisfies the invariant. -/
theorem Reachable.inv {aes : BlockCipher} {ctx : Ctx}
    (reachable : Reachable aes ctx) : ctx.toParticipant.Inv := by
  obtain ⟨cak, ckn, localMac, portId, priority, interval, mi, start,
    initialised, run⟩ := reachable
  refine run.invariant (fun ctx => ctx.toParticipant.Inv) ?_ ?_
  · rw [(init_ok initialised).1]
    exact (resting_completeInit localMac portId priority interval mi).inv
  · exact fun ctx call inv => perform_inv inv call

/-- A call leads from a reachable participant to a reachable one. -/
theorem Reachable.perform {aes : BlockCipher} {ctx : Ctx}
    (reachable : Reachable aes ctx) (call : Call) :
    Reachable aes (Mka.perform aes ctx call).1 := by
  obtain ⟨cak, ckn, localMac, portId, priority, interval, mi, start,
    initialised, run⟩ := reachable
  exact ⟨cak, ckn, localMac, portId, priority, interval, mi, start,
    initialised, run.step call⟩

/-- A run leads from a reachable participant to a reachable one. -/
theorem Reachable.final {aes : BlockCipher} {ctx : Ctx}
    (reachable : Reachable aes ctx) (calls : List Call) :
    Reachable aes ((machine aes).final ctx calls) := by
  obtain ⟨cak, ckn, localMac, portId, priority, interval, mi, start,
    initialised, run⟩ := reachable
  exact ⟨cak, ckn, localMac, portId, priority, interval, mi, start,
    initialised, run.trans ⟨calls, rfl⟩⟩

/-- An initialised participant is reachable. -/
theorem reachable_initialCtx
    (aes : BlockCipher) {cak ckn : Bytes}
    (cakSize : MkaCrypto.keyLenValid cak.length = true)
    (cknPresent : ckn.length ≠ 0) (cknFits : ckn.length ≤ MkaCrypto.cknMaxLen)
    (localMac : Octets 6) (portId : UInt16) (priority : UInt8)
    (interval : UInt32) (mi : Octets 12) :
    Reachable aes
      (initialCtx aes cak ckn localMac portId priority interval mi) :=
  ⟨cak, ckn, localMac, portId, priority, interval, mi, _,
    (init_eq aes cakSize cknPresent cknFits localMac portId priority interval
      mi).1,
    Transition.Machine.Reachable.refl _ _⟩

end Mka

end Macsec
