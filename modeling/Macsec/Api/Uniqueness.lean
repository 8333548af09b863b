import Macsec.Api.Arrivals
import Macsec.Api.Numbers

/-!
# Packet numbers over whole runs

Installing a key starts its packet numbers anew, and the participant may install
a key for a second time: a SAK that was displaced and forgotten is adopted again
from an MKPDU that arrives late.  Nothing else brings a packet number back.  So
as long as no MKPDU makes the participant adopt such a SAK, and random octets
are fresh, no run sends two frames under one nonce, and none passes a protected
frame to the stack twice.
-/

namespace Macsec

open Mka (Direction)

variable {aes : BlockCipher} {ctx : Ctx} {direction : Direction}

/-! ## What a call does to the associations -/

namespace Control

variable {ctx : Control} {key : Bytes} {an : Fin 4}

/-- Servicing leaves the replay settings alone. -/
theorem replay_serviced :
    ctx.serviced.table.replayProtect = ctx.table.replayProtect ∧
      ctx.serviced.table.replayWindow = ctx.table.replayWindow := by
  have drained : ctx.drained.table.replayProtect = ctx.table.replayProtect ∧
      ctx.drained.table.replayWindow = ctx.table.replayWindow := by
    unfold drained
    dsimp only
    split
    next =>
        change (removedTable ctx.table ctx.mka.oldSak).replayProtect = _ ∧
          (removedTable ctx.table ctx.mka.oldSak).replayWindow = _
        unfold removedTable
        dsimp only
        split_ifs
        all_goals exact ⟨rfl, rfl⟩
    next => exact ⟨rfl, rfl⟩
  unfold serviced
  split
  next =>
      have activated : ctx.drained.activated.table.replayProtect =
            ctx.drained.table.replayProtect ∧
          ctx.drained.activated.table.replayWindow =
            ctx.drained.table.replayWindow := by
        unfold activated txTable rxTable
        dsimp only
        split_ifs
        all_goals exact ⟨rfl, rfl⟩
      exact ⟨activated.1.trans drained.1, activated.2.trans drained.2⟩
  next => exact drained

/-- A key that is installed after the service was installed before, in an
association that is the same, or waited for its installation. -/
theorem installed_serviced (serviceable : ctx.mka.Serviceable)
    (receives : ctx.mka.slots.OldReceives)
    (installed : ctx.serviced.table.Installed direction key an) :
    ctx.serviced.table.slot direction an = ctx.table.slot direction an ∨
      (ctx.Awaits key an ∧ ¬ctx.table.Installed direction key an) := by
  obtain ⟨valid, sameKey, sameAn⟩ := installed
  cases direction with
  | tx =>
      rcases txSak_serviced serviceable with
        same | invalid | ⟨other, number, awaits, absent, fresh⟩
      · exact Or.inl same
      · exact Bool.noConfusion (invalid.symm.trans valid)
      · change ctx.serviced.table.txSak.key = key at sameKey
        change ctx.serviced.table.txSak.an = an at sameAn
        rw [fresh] at sameKey sameAn
        cases sameKey
        cases sameAn
        exact Or.inr ⟨awaits, absent⟩
  | rx =>
      rcases rxSak_serviced serviceable receives an with
        same | invalid | ⟨other, awaits, absent, sameOther⟩
      · exact Or.inl same
      · exact Bool.noConfusion (invalid.symm.trans valid)
      · cases sameOther.symm.trans sameKey
        exact Or.inr ⟨awaits, fun before => absent ⟨before.1, before.2.1⟩⟩

end Control

/-- The associations go on with their numbers, or the key agreement is
serviced. -/
theorem continues_or_serviced (resting : ctx.control.Resting)
    (protects : direction = .rx → ctx.frameCrypto.replayProtect = true)
    (call : Call) :
    ctx.frameCrypto.toSaTable.Continues direction
        (perform aes ctx call).1.frameCrypto.toSaTable ∨
      ∃ before, Prompts aes ctx call before ∧ before.mka.Serviceable ∧
        (perform aes ctx call).1.control = before.serviced := by
  have mode := notDisabled_of_resting resting
  have same {after : Ctx}
      (table : after.control.table = ctx.frameCrypto.toSaTable) :
      ctx.frameCrypto.toSaTable.Continues direction
        after.frameCrypto.toSaTable := by
    change ctx.frameCrypto.toSaTable.Continues direction after.control.table
    rw [table]
    exact .refl _ _
  cases call with
  | output plain txMaxLen =>
      refine Or.inl ?_
      change ctx.frameCrypto.toSaTable.Continues direction
        (output aes ctx plain txMaxLen).1.frameCrypto.toSaTable
      rcases @output_cases aes ctx mode plain txMaxLen with
        ⟨ret, -, result⟩ | ⟨-, result⟩
      · rw [result]
        exact .refl _ _
      · rw [result]
        exact FrameCrypto.continues_encrypt aes ctx.frameCrypto plain txMaxLen
          direction
  | input frame plain rnd =>
      change ctx.frameCrypto.toSaTable.Continues direction
          (input aes ctx frame plain rnd).1.frameCrypto.toSaTable ∨
        ∃ before, _ ∧ _ ∧ (input aes ctx frame plain rnd).1.control = _
      rcases @input_cases aes ctx mode frame plain rnd with
        ⟨isMka, result⟩ | ⟨-, secured, result⟩ | ⟨-, ret, -, result⟩
      · have outcome :=
          Control.receiveMka_cases resting (Mka.classify aes ctx.mka frame)
            (Mka.classify_ne_rejected_ok aes ctx.mka frame) rnd
        have received := congrArg Prod.snd
          (@inputMka_receive aes ctx frame rnd)
        dsimp only at outcome received
        rw [result]
        rcases outcome with ⟨-, -, failed⟩ | ⟨ok, serviceable, serviced⟩
        · rw [failed] at received
          exact Or.inl (same (congrArg Control.table received))
        · rw [serviced] at received
          refine Or.inr ⟨_, ?_, serviceable, received⟩
          cases classified : Mka.classify aes ctx.mka frame with
          | rejected ret =>
              rw [classified] at ok
              exact absurd classified fun rejected =>
                Mka.classify_ne_rejected_ok aes ctx.mka frame
                  (rejected.trans (congrArg _ ok))
          | own => exact .own isMka classified
          | accepted pdu =>
              rw [classified] at ok
              exact .heard isMka classified ok
      · rw [result, (inputSecure_cases secured frame plain).1]
        exact Or.inl (FrameCrypto.continues_decrypt aes ctx.frameCrypto frame
          plain protects)
      · rw [result]
        exact Or.inl (.refl _ _)
  | tick nowMs =>
      exact Or.inr ⟨_, .ticked nowMs,
        (Mka.Participant.tick_serviceable resting.mka nowMs).2.1,
        congrArg Prod.snd (Control.tick_eq resting nowMs)⟩
  | buildControlFrame txMaxLen rnd =>
      obtain ⟨mka, pendingMeta, pendingValid, -, result⟩ :=
        @buildControlFrame_control aes ctx txMaxLen rnd
      refine Or.inl (same ?_)
      change (buildControlFrame aes ctx txMaxLen rnd).1.control.table = _
      rw [result]
      rfl
  | notifyControlTxSuccess nowMs =>
      rcases Control.notifyControlTxSuccess_cases resting nowMs with
        ⟨-, result⟩ | ⟨-, failed, result⟩ |
        ⟨pending, accepted, serviceable, result⟩
      · exact Or.inl (same (congrArg (fun result => result.2.table) result))
      · exact Or.inl (same (congrArg (fun result => result.2.table) result))
      · exact Or.inr ⟨_, .reported pending accepted, serviceable,
          congrArg Prod.snd result⟩
  | notifyControlTxFailure =>
      refine Or.inl (same ?_)
      change ctx.control.notifyControlTxFailure.2.table = _
      unfold Control.notifyControlTxFailure
      split_ifs
      all_goals rfl

/-! ## What a run has to avoid -/

/-- The octets that the call may draw for a SAK are not those of a key that the
participant has had. -/
def FreshDraw (past : List (Transition.Event Ctx Call Reply))
    (event : Transition.Event Ctx Call Reply) : Prop :=
  ∀ key, event.input.Draws key → ∀ earlier ∈ past ++ [event],
    ¬Knows earlier.before.control key

/-- The participant adopts a SAK that is not installed, although packet numbers
were used under it before or are in use with another association number. -/
def Readopts (aes : BlockCipher) (direction : Direction)
    (past : List (Transition.Event Ctx Call Reply))
    (event : Transition.Event Ctx Call Reply) : Prop :=
  ∃ key an, event.input.Adopts aes event.before key an ∧
    ¬event.before.frameCrypto.toSaTable.Installed direction key an ∧
    ((ledger direction).Used past (tagOf direction key an) ∨
      event.before.frameCrypto.toSaTable.Holds direction
        (tagOf direction key an))

/-- Random octets are fresh, and no SAK returns. -/
def Renewing (aes : BlockCipher) (direction : Direction)
    (past : List (Transition.Event Ctx Call Reply))
    (event : Transition.Event Ctx Call Reply) : Prop :=
  FreshDraw past event ∧ ¬Readopts aes direction past event

/-- What is known of the keys of a run whose SAKs do not return: those that
wait for their installation have not been used. -/
structure Accounted (aes : BlockCipher) (direction : Direction)
    (past : List (Transition.Event Ctx Call Reply)) (ctx : Ctx) : Prop where
  reachable : Reachable aes .mkaPsk ctx
  protects : direction = .rx → ctx.frameCrypto.replayProtect = true
  known : ∀ key an, (ledger direction).Used past (tagOf direction key an) →
    ∃ earlier ∈ past, Knows earlier.before.control key
  waits : ∀ key an, ctx.control.Awaits key an →
    (¬(ledger direction).Used past (tagOf direction key an) ∧
      ¬ctx.frameCrypto.toSaTable.Holds direction (tagOf direction key an)) ∨
    ctx.frameCrypto.toSaTable.Installed direction key an

variable {past : List (Transition.Event Ctx Call Reply)}

/-- Tags of different keys are different. -/
theorem key_of_tagOf {key other : Bytes} {an number : Fin 4}
    (same : tagOf direction key an = tagOf direction other number) :
    key = other := by
  cases direction with
  | tx | rx => exact congrArg Prod.fst same

/-- A key that is installed is known. -/
theorem Reachable.knows_of_holds (reachable : Reachable aes .mkaPsk ctx)
    {key : Bytes} {an : Fin 4}
    (holds : ctx.frameCrypto.toSaTable.Holds direction
      (tagOf direction key an)) : Knows ctx.control key := by
  obtain ⟨other, number, same, valid, sameKey, -⟩ := holds
  have shape := reachable.resting.mka.inv.slots
  cases key_of_tagOf same
  cases direction with
  | tx => exact ⟨_, sameKey ▸ (reachable.backed.tx valid).holds shape⟩
  | rx => exact ⟨_, sameKey ▸ (reachable.backed.rx _ valid).2.holds shape⟩

/-- A packet number is used up under an association that had not used it. -/
theorem Accounted.takes (accounted : Accounted aes direction past ctx)
    (call : Call) {tag : Tag} {pn : UInt32}
    (uses : usedPn direction ((machine aes).event ctx call) = some (tag, pn)) :
    ctx.frameCrypto.toSaTable.Holds direction tag ∧
      ¬ctx.frameCrypto.toSaTable.Spent direction tag pn ∧
      (perform aes ctx call).1.frameCrypto.toSaTable.Spent direction tag pn :=
  takes_usedPn (notDisabled_of_resting accounted.reachable.resting)
    (fun an valid => (accounted.reachable.backed.rx an valid).1)
    accounted.protects call tag pn uses

/-- A SAK that waits because of a call is installed, or was not used. -/
theorem Accounted.waits_of_arrival
    (accounted : Accounted aes direction past ctx) {call : Call}
    (renewing : Renewing aes direction past ((machine aes).event ctx call))
    {key : Bytes} {an : Fin 4}
    (arrives : ctx.control.Awaits key an ∨ call.Brings aes ctx key an) :
    (¬(ledger direction).Used past (tagOf direction key an) ∧
      ¬ctx.frameCrypto.toSaTable.Holds direction (tagOf direction key an)) ∨
    ctx.frameCrypto.toSaTable.Installed direction key an := by
  rcases arrives with awaits | draws | adopts
  · exact accounted.waits key an awaits
  · have unknown := renewing.1 key draws
    refine Or.inl ⟨fun used => ?_, fun holds => ?_⟩
    · obtain ⟨earlier, member, knows⟩ := accounted.known key an used
      exact unknown earlier (List.mem_append_left _ member) knows
    · exact unknown _ (List.mem_append_right _ List.mem_cons_self)
        (accounted.reachable.knows_of_holds holds)
  · by_cases installed :
        ctx.frameCrypto.toSaTable.Installed direction key an
    · exact Or.inr installed
    · exact Or.inl (not_or.mp fun returns =>
        renewing.2 ⟨key, an, adopts, installed, returns⟩)

/-- A step of a run whose SAKs do not return keeps its account. -/
theorem Accounted.step (accounted : Accounted aes direction past ctx)
    {call : Call}
    (renewing : Renewing aes direction past ((machine aes).event ctx call)) :
    Accounted aes direction (past ++ [(machine aes).event ctx call])
      (perform aes ctx call).1 := by
  have resting := accounted.reachable.resting
  have holds_of_used {key : Bytes} {an : Fin 4}
      (used : (ledger direction).Used
        (past ++ [(machine aes).event ctx call]) (tagOf direction key an)) :
      (ledger direction).Used past (tagOf direction key an) ∨
        ctx.frameCrypto.toSaTable.Holds direction (tagOf direction key an) := by
    obtain ⟨pn, member⟩ := used
    rcases Transition.Ledger.mem_uses_concat.mp member with earlier | now
    · exact Or.inl ⟨pn, earlier⟩
    · exact Or.inr (accounted.takes call now).1
  refine ⟨accounted.reachable.final [call], fun receives => ?_,
    fun key an used => ?_, fun key an awaits => ?_⟩
  · have protect := accounted.protects receives
    rcases @continues_or_serviced aes _ direction resting accounted.protects
        call with
      continues | ⟨before, prompts, -, serviced⟩
    · exact continues.protect.trans protect
    · change (perform aes ctx call).1.control.table.replayProtect = true
      rw [serviced, Control.replay_serviced.1, table_of_prompts prompts]
      exact protect
  · rcases holds_of_used used with before | holds
    · obtain ⟨earlier, member, knows⟩ := accounted.known key an before
      exact ⟨earlier, List.mem_append_left _ member, knows⟩
    · exact ⟨_, List.mem_append_right _ List.mem_cons_self,
        accounted.reachable.knows_of_holds holds⟩
  · obtain ⟨arrives, same⟩ :=
      awaits_of_step resting (perform_step resting call) awaits
    change (_ ∧ ¬(perform aes ctx call).1.control.table.Holds _ _) ∨
      (perform aes ctx call).1.control.table.Installed _ _ _
    rw [same.holds_iff, same.installed_iff]
    refine (accounted.waits_of_arrival renewing arrives).imp_left ?_
    rintro ⟨unused, absent⟩
    exact ⟨fun used => (holds_of_used used).elim unused absent, absent⟩

/-- Nor does it bring a packet number back. -/
theorem Accounted.fair (accounted : Accounted aes direction past ctx)
    {call : Call}
    (renewing : Renewing aes direction past ((machine aes).event ctx call)) :
    (ledger direction).Fair past ((machine aes).event ctx call) := by
  refine ⟨fun tag pn uses => accounted.takes call uses, ?_⟩
  rintro tag used ⟨key, an, rfl, installed⟩
  have resting := accounted.reachable.resting
  rcases continues_or_serviced resting accounted.protects call with
    continues | ⟨before, prompts, serviceable, serviced⟩
  · exact ⟨continues.keys.holds_iff.mp ⟨key, an, rfl, installed⟩,
      fun pn spent => continues.spent spent⟩
  · have table := table_of_prompts prompts
    have kept {other : Bytes} {number : Fin 4}
        (same : tagOf direction other number = tagOf direction key an)
        (installed : before.serviced.table.Installed direction other number) :
        before.serviced.table.slot direction number =
          ctx.frameCrypto.toSaTable.slot direction number := by
      have receives :=
        (backed_of_prompts resting accounted.reachable.backed prompts).receives
      rcases Control.installed_serviced serviceable receives installed with
        sameSlot | ⟨awaits, absent⟩
      · rw [sameSlot, table]
      · rw [table] at absent
        rcases accounted.waits_of_arrival renewing
            (awaits_of_prompts resting prompts awaits) with
          ⟨unused, -⟩ | present
        · exact absurd used (same ▸ unused)
        · exact absurd present absent
    have after :
        (perform aes ctx call).1.frameCrypto.toSaTable =
          before.serviced.table := congrArg Control.table serviced
    change (perform aes ctx call).1.frameCrypto.toSaTable.Installed _ _ _
      at installed
    rw [after] at installed
    constructor
    · refine ⟨key, an, rfl, ?_⟩
      unfold FrameCrypto.SaTable.Installed at installed ⊢
      rwa [kept rfl installed] at installed
    · intro pn spent other number same present
      change (perform aes ctx call).1.frameCrypto.toSaTable.Installed _ _ _
        at present
      change FrameCrypto.Past
        (perform aes ctx call).1.frameCrypto.toSaTable.replayWindow
        ((perform aes ctx call).1.frameCrypto.toSaTable.slot _ _) _ _
      rw [after] at present ⊢
      have sameSlot := kept same present
      rw [sameSlot, Control.replay_serviced.2, table]
      refine spent other number same ?_
      unfold FrameCrypto.SaTable.Installed at present ⊢
      rwa [sameSlot] at present

/-! ## Runs -/

/-- A context that was just initialised holds no key. -/
theorem accounted_of_init {cfg : Config} {mi : Octets 12} {start : Ctx}
    (mode : cfg.mode = .mkaPsk) (initialised : init aes cfg mi = (.ok, start))
    (protects : direction = .rx → cfg.replayProtect = true) :
    Accounted aes direction [] start ∧
      (∀ key, ¬Knows start.control key) ∧
      ∀ tag, ¬start.frameCrypto.toSaTable.Holds direction tag := by
  have reachable : Reachable aes .mkaPsk start :=
    ⟨cfg, mi, start, mode, initialised, Transition.Machine.Reachable.refl _ _⟩
  have slots : start.mka.slots = ⟨Mka.Sak.cleared, Mka.Sak.cleared⟩ := by
    rw [(init_mkaPsk mode initialised).1]
    change (Mka.Participant.start _ _ _ _ mi).completeInit.slots = _
    rw [Mka.completeInit_eq]
    rfl
  have knows (key : Bytes) : ¬Knows start.control key := by
    rintro ⟨an, holds⟩
    change start.mka.slots.Holds key an at holds
    rw [slots] at holds
    rcases holds with ⟨present, -⟩ | ⟨present, -⟩
    · exact present rfl
    · exact present rfl
  refine ⟨⟨reachable, fun receives => ?_, fun key an used => ?_,
    fun key an awaits => ?_⟩, knows, ?_⟩
  · rw [(init_mkaPsk mode initialised).1]
    exact protects receives
  · obtain ⟨pn, member⟩ := used
    exact absurd member List.not_mem_nil
  · have absent : start.mka.latestSak.lifecycleState = .none :=
      congrArg (·.latest.lifecycleState) slots
    exact absurd absent awaits.1.1
  · rintro tag ⟨key, an, rfl, installed⟩
    exact knows key (reachable.knows_of_holds ⟨key, an, rfl, installed⟩)

/-- In a run whose SAKs do not return no packet number is used twice. -/
theorem nodup_usedPn {cfg : Config} {mi : Octets 12} {start : Ctx}
    (mode : cfg.mode = .mkaPsk) (initialised : init aes cfg mi = (.ok, start))
    (protects : direction = .rx → cfg.replayProtect = true)
    (calls : List Call)
    (renewing : Transition.Guarded (Renewing aes direction)
      ((machine aes).events start calls)) :
    (((machine aes).events start calls).filterMap
      (usedPn direction)).Nodup := by
  change ((ledger direction).uses _).Nodup
  apply Transition.Ledger.nodup_uses
  exact Transition.Machine.guarded_events
    (accounted_of_init mode initialised protects).1
    (fun past ctx call accounted guard => accounted.step guard)
    (fun past ctx call accounted guard => accounted.fair guard) calls renewing

/-- In a run whose SAKs do not return no two frames are sent under one key with
one packet number. -/
theorem nodup_sentNumber {cfg : Config} {mi : Octets 12} {start : Ctx}
    (mode : cfg.mode = .mkaPsk) (initialised : init aes cfg mi = (.ok, start))
    (calls : List Call)
    (renewing : Transition.Guarded (Renewing aes .tx)
      ((machine aes).events start calls)) :
    (((machine aes).events start calls).filterMap sentNumber).Nodup := by
  have distinct := nodup_usedPn mode initialised Direction.noConfusion calls
    renewing
  change (List.filterMap (fun event => (sentNumber event).map _) _).Nodup
    at distinct
  rw [← List.map_filterMap] at distinct
  exact distinct.of_map

/-- Nor are two protected frames with one packet number passed on under one key
and one association number, where received packet numbers are checked. -/
theorem nodup_passedNumber {cfg : Config} {mi : Octets 12} {start : Ctx}
    (mode : cfg.mode = .mkaPsk) (initialised : init aes cfg mi = (.ok, start))
    (protects : cfg.replayProtect = true) (calls : List Call)
    (renewing : Transition.Guarded (Renewing aes .rx)
      ((machine aes).events start calls)) :
    (((machine aes).events start calls).filterMap passedNumber).Nodup := by
  have distinct := nodup_usedPn mode initialised (fun _ => protects) calls
    renewing
  change (List.filterMap (fun event => (passedNumber event).map _) _).Nodup
    at distinct
  rw [← List.map_filterMap] at distinct
  exact distinct.of_map

/-- The call is not about MKPDUs. -/
def Call.Plain : Call → Prop
  | .input frame _ _ => Mka.isEapolMka frame = false
  | .buildControlFrame _ _ => False
  | _ => True

/-- No SAK returns in a run that begins with its only call about MKPDUs. -/
theorem renewing_of_plain {cfg : Config} {mi : Octets 12} {start : Ctx}
    (mode : cfg.mode = .mkaPsk) (initialised : init aes cfg mi = (.ok, start))
    (protects : direction = .rx → cfg.replayProtect = true) (first : Call)
    {calls : List Call} (others : ∀ call ∈ calls, call.Plain) :
    Transition.Guarded (Renewing aes direction)
      ((machine aes).events start (first :: calls)) := by
  obtain ⟨-, unknown, empty⟩ :=
    accounted_of_init mode initialised protects
  intro past event rest split
  rw [Transition.Machine.events] at split
  cases past with
  | nil =>
      obtain ⟨rfl, -⟩ := List.cons.inj split
      constructor
      · intro key draws earlier member
        rw [List.nil_append, List.mem_singleton] at member
        rw [member]
        exact unknown key
      · rintro ⟨key, an, -, -, ⟨pn, used⟩ | holds⟩
        · exact List.not_mem_nil used
        · exact empty _ holds
  | cons earlier past =>
      obtain ⟨-, later⟩ := List.cons.inj split
      have plain : event.input.Plain := by
        apply others
        apply Transition.Machine.input_mem_of_mem
        rw [later]
        exact List.mem_append_right past List.mem_cons_self
      obtain ⟨before, call, reply, after⟩ := event
      cases call with
      | input frame buffer rnd =>
          constructor
          · rintro key ⟨isMka, -⟩
            exact Bool.noConfusion (isMka.symm.trans plain)
          · rintro ⟨key, an, ⟨pdu, found, accepted, -⟩, -⟩
            have isMka := Mka.isEapolMka_of_accepted accepted
            exact Bool.noConfusion (isMka.symm.trans plain)
      | buildControlFrame txMaxLen rnd => exact False.elim plain
      | output | tick | notifyControlTxSuccess | notifyControlTxFailure =>
          constructor
          · intro key draws
            exact False.elim draws
          · rintro ⟨key, an, adopts, -⟩
            exact adopts

end Macsec
