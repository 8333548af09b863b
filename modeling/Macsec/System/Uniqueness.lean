import Macsec.Api.Uniqueness
import Macsec.Foundation.Copies
import Macsec.System.Network

/-!
# No nonce is used twice

The stations of a group protect their frames under the same keys, so the nonces
have to differ between the stations as well as along the run of each of them.
A nonce consists of the channel identifier of the sender and a packet number.
If the identifiers differ, it is enough that no station takes up a SAK for a
second time; and then no station passes a protected frame on for a second time.
-/

namespace Macsec

namespace System

open Transition (partOf)

variable {ι : Type} [DecidableEq ι] {aes : BlockCipher} {start : ι → Ctx}

/-- The steps of a party are a run of its context. -/
theorem partOf_events (aes : BlockCipher) (start : ι → Ctx)
    (inputs : List (ι × Call)) (party : ι) :
    partOf party ((machine aes).events start inputs) =
      (Macsec.machine aes).events (start party)
        (inputs.filterMap (Transition.inputTo party)) :=
  Transition.partOf_events (Macsec.machine aes) party start inputs

/-- The key and the nonce of the frame that a step sends. -/
def sentNonce (event : Event ι) : Option (Bytes × Bytes) :=
  match event.input with
  | (party, .output _ _) =>
      if event.output.ret = .ok then
        some ((event.before party).frameCrypto.txSak.key,
          FrameCrypto.frameIv (FrameCrypto.frameSci event.output.frame)
            (FrameCrypto.framePn event.output.frame))
      else
        none
  | _ => none

/-- The receiver, the key, the association number and the packet number of the
protected frame that a step passes to the stack. -/
def passedFrame (event : Event ι) : Option (ι × Bytes × Fin 4 × UInt32) :=
  match event.input with
  | (party, .input frame _ _) =>
      if event.output.passToStack = true then
        some (party,
          ((event.before party).frameCrypto.rxSak
            (FrameCrypto.frameAn frame)).key,
          FrameCrypto.frameAn frame, FrameCrypto.framePn frame)
      else
        none
  | _ => none

/-- Nonces with the same octets have the same parts. -/
theorem frameIv_inj {sci other : Octets 8} {pn number : UInt32}
    (same : FrameCrypto.frameIv sci pn = FrameCrypto.frameIv other number) :
    sci = other ∧ pn = number := by
  obtain ⟨first, second⟩ :=
    List.append_inj same (sci.2.trans other.2.symm)
  refine ⟨Subtype.ext first, ?_⟩
  have read (value : UInt32) :
      rdBe32 (wrBe32 value).1 0 = value := by
    have whole := Bytes.slice_append_self (wrBe32 value) []
    rw [List.append_nil] at whole
    exact rdBe32_eq whole
  rw [← read pn, second, read]

/-- A frame that is sent carries the channel identifier of its sender, and its
nonce is that of its packet number. -/
theorem sentNonce_eq {event : Event ι} {key nonce : Bytes}
    (sealed : Sealed aes start event)
    (sends : sentNonce event = some (key, nonce)) :
    ∃ one pn, event.part event.input.1 = some one ∧
      sentNumber one = some (key, pn) ∧
      nonce =
        FrameCrypto.frameIv (start event.input.1).frameCrypto.localSci pn := by
  obtain ⟨before, ⟨party, call⟩, reply, after⟩ := event
  cases call with
  | output plain txMaxLen =>
      unfold sentNonce at sends
      dsimp only at sends
      split_ifs at sends with ok
      obtain ⟨rfl, rfl⟩ := Prod.mk.inj (Option.some.inj sends)
      obtain ⟨-, -, an, pn, form⟩ :=
        sealed party _ plain reply.frame ⟨txMaxLen, rfl, ok, rfl, rfl⟩
      obtain ⟨sci, -, -, -⟩ :=
        @FrameCrypto.sealFrame_fields aes (before party).frameCrypto.txSak.key
          an pn (start party).frameCrypto.localSci plain
      refine ⟨_, FrameCrypto.framePn reply.frame, if_pos rfl, ?_, ?_⟩
      · exact if_pos ok
      · rw [show FrameCrypto.frameSci reply.frame = _ from form ▸ sci]
  | input | tick | buildControlFrame | notifyControlTxSuccess
  | notifyControlTxFailure => cases sends

/-- A frame that is passed on uses its packet number at the receiver. -/
theorem passedFrame_eq {event : Event ι} {receiver : ι}
    {used : Bytes × Fin 4 × UInt32}
    (passes : passedFrame event = some (receiver, used)) :
    ∃ one, event.part receiver = some one ∧ passedNumber one = some used := by
  obtain ⟨before, ⟨party, call⟩, reply, after⟩ := event
  cases call with
  | input frame plain rnd =>
      unfold passedFrame at passes
      dsimp only at passes
      split_ifs at passes with passed
      obtain ⟨rfl, rfl⟩ := Prod.mk.inj (Option.some.inj passes)
      exact ⟨_, if_pos rfl, if_pos passed⟩
  | output | tick | buildControlFrame | notifyControlTxSuccess
  | notifyControlTxFailure => cases passes

/-- What is sent in a run is sealed under the channel identifiers of its
parties. -/
theorem sealed_of_run
    (initialised : ∀ party, ∃ cfg mi, cfg.mode ≠ .disabled ∧
      init aes cfg mi = (.ok, start party)) (inputs : List (ι × Call)) :
    ∀ event ∈ (machine aes).events start inputs, Sealed aes start event := by
  have enabled : ∀ party, (start party).cfg.mode ≠ .disabled := by
    intro party
    obtain ⟨cfg, mi, mode, result⟩ := initialised party
    rw [init_mode result]
    exact mode
  have initial : ∀ party, Steady aes (start party) (start party) := by
    intro party
    obtain ⟨cfg, mi, -, result⟩ := initialised party
    exact steady_of_init result
  refine @Transition.Machine.forall_guarded _ _ _ (machine aes)
    (fun parties => ∀ party, Steady aes (start party) (parties party))
    (fun _ => True) (Sealed aes start) ?_ ?_ _ initial inputs
    fun _ _ => trivial
  · rintro parties ⟨party, call⟩ steady -
    exact forall_step (fun party ctx => Steady aes (start party) ctx) steady
      ((steady party).perform (enabled party) call)
  · intro parties input steady _
    exact sealed_event steady enabled input

/-- Nonces are distinct in the whole run if the channel identifiers differ and
every party for itself uses its packet numbers once. -/
theorem nodup_sentNonce
    (initialised : ∀ party, ∃ cfg mi, cfg.mode ≠ .disabled ∧
      init aes cfg mi = (.ok, start party))
    (differ : Function.Injective fun party =>
      (start party).frameCrypto.localSci)
    {inputs : List (ι × Call)}
    (parts : ∀ party,
      ((partOf party ((machine aes).events start inputs)).filterMap
        sentNumber).Nodup) :
    (((machine aes).events start inputs).filterMap sentNonce).Nodup := by
  have all := sealed_of_run initialised inputs
  apply List.pairwise_filterMap.mpr
  apply (Transition.pairwise_of_parts parts).imp_of_mem
  rintro first second inFirst inSecond distinct ⟨key, nonce⟩ sends
    ⟨other, again⟩ resends same
  obtain ⟨rfl, rfl⟩ := Prod.mk.inj same
  obtain ⟨one, pn, partOne, sentOne, nonceOne⟩ :=
    sentNonce_eq (all first inFirst) sends
  obtain ⟨two, number, partTwo, sentTwo, nonceTwo⟩ :=
    sentNonce_eq (all second inSecond) resends
  obtain ⟨sci, rfl⟩ := frameIv_inj (nonceOne.symm.trans nonceTwo)
  have sender := differ sci
  rw [← sender] at partTwo
  exact distinct _ one two partOne partTwo _ sentOne _ sentTwo rfl

/-- Where no station takes up a SAK for a second time and random octets are
fresh, no two frames of the stations are protected with the same nonce under
the same key. -/
theorem nonces_distinct
    (initialised : ∀ party, ∃ cfg mi, cfg.mode = .mkaPsk ∧
      init aes cfg mi = (.ok, start party))
    (differ : Function.Injective fun party =>
      (start party).frameCrypto.localSci)
    (inputs : List (ι × Call))
    (renewing : ∀ party, Transition.Guarded (Renewing aes .tx)
      (partOf party ((machine aes).events start inputs))) :
    (((machine aes).events start inputs).filterMap sentNonce).Nodup := by
  refine nodup_sentNonce (fun party => ?_) differ fun party => ?_
  · obtain ⟨cfg, mi, mode, result⟩ := initialised party
    exact ⟨cfg, mi, mode ▸ Mode.noConfusion, result⟩
  · obtain ⟨cfg, mi, mode, result⟩ := initialised party
    have renewing := renewing party
    rw [partOf_events] at renewing ⊢
    exact nodup_sentNumber mode result _ renewing

/-! ## Two stations -/

/-- Two stations that were just initialised; the second one becomes the Key
Server. -/
def stations (aes : BlockCipher) : Side → Ctx
  | .a => stationCtx aes 1 10 11
  | .b => stationCtx aes 2 5 12

theorem initialised_stations (aes : BlockCipher) (side : Side) :
    ∃ cfg mi, cfg.mode = .mkaPsk ∧ cfg.replayProtect = true ∧
      init aes cfg mi = (.ok, stations aes side) := by
  cases side with
  | a => exact ⟨_, _, rfl, rfl, init_stationCtx aes 1 10 11⟩
  | b => exact ⟨_, _, rfl, rfl, init_stationCtx aes 2 5 12⟩

theorem differ_stations (aes : BlockCipher) :
    Function.Injective fun side =>
      (stations aes side).frameCrypto.localSci := by
  have differ :
      (stations aes .a).frameCrypto.localSci ≠
        (stations aes .b).frameCrypto.localSci := by
    change Mka.buildSci _ 1 ≠ Mka.buildSci _ 1
    decide
  intro side other same
  cases side <;> cases other
  · rfl
  · exact absurd same differ
  · exact absurd same.symm differ
  · rfl

/-- A station hears from the Key Server, and goes on without it. -/
theorem renewing_stations (direction : Mka.Direction) (calls : List Call)
    (others : ∀ call ∈ calls, call.Plain) (party : Side) :
    Transition.Guarded (Renewing BlockCipher.null direction)
      (partOf party ((machine BlockCipher.null).events
        (stations BlockCipher.null)
        ((hearSupplier BlockCipher.null :: calls).map (.a, ·)))) := by
  rw [partOf_events]
  cases party with
  | a =>
      have all :
          ((hearSupplier BlockCipher.null :: calls).map
              ((Side.a, ·))).filterMap (Transition.inputTo .a) =
            hearSupplier BlockCipher.null :: calls := by
        rw [List.filterMap_map]
        exact List.filterMap_some
      rw [all]
      exact renewing_of_plain rfl (init_stationCtx _ 1 10 11) (fun _ => rfl) _
        others
  | b =>
      have none :
          ((hearSupplier BlockCipher.null :: calls).map
              ((Side.a, ·))).filterMap (Transition.inputTo .b) = [] := by
        rw [List.filterMap_map]
        exact List.filterMap_eq_nil_iff.mpr fun _ _ => rfl
      rw [none]
      exact .nil

/-- A station that sends two frames under the SAK of its Key Server uses two
nonces. -/
theorem station_nonces_distinct :
    (((machine BlockCipher.null).events (stations BlockCipher.null)
      [(.a, hearSupplier BlockCipher.null), (.a, .output greeting 1700),
        (.a, .output greeting 1700)]).filterMap sentNonce).Nodup :=
  nonces_distinct
    (fun party => by
      obtain ⟨cfg, mi, mode, -, result⟩ :=
        initialised_stations BlockCipher.null party
      exact ⟨cfg, mi, mode, result⟩)
    (differ_stations BlockCipher.null) _
    (renewing_stations .tx [.output greeting 1700, .output greeting 1700]
      fun call member => by
        simp only [List.mem_cons, List.not_mem_nil, or_false, or_self]
          at member
        rw [member]
        trivial)

/-! ## Frames that are passed on -/

/-- Where received packet numbers are checked, no station passes two protected
frames with the same key, association number and packet number to its stack. -/
theorem frames_passed_once
    (initialised : ∀ party, ∃ cfg mi, cfg.mode = .mkaPsk ∧
      cfg.replayProtect = true ∧ init aes cfg mi = (.ok, start party))
    (inputs : List (ι × Call))
    (renewing : ∀ party, Transition.Guarded (Renewing aes .rx)
      (partOf party ((machine aes).events start inputs))) :
    (((machine aes).events start inputs).filterMap passedFrame).Nodup := by
  have parts : ∀ party,
      ((partOf party ((machine aes).events start inputs)).filterMap
        passedNumber).Nodup := by
    intro party
    obtain ⟨cfg, mi, mode, protects, result⟩ := initialised party
    have renewing := renewing party
    rw [partOf_events] at renewing ⊢
    exact nodup_passedNumber mode result protects _ renewing
  apply List.pairwise_filterMap.mpr
  apply (Transition.pairwise_of_parts parts).imp
  rintro first second distinct ⟨receiver, used⟩ passes ⟨other, again⟩
    repasses same
  obtain ⟨rfl, rfl⟩ := Prod.mk.inj same
  obtain ⟨one, partOne, passedOne⟩ := passedFrame_eq passes
  obtain ⟨two, partTwo, passedTwo⟩ := passedFrame_eq repasses
  exact distinct _ one two partOne partTwo _ passedOne _ passedTwo rfl

/-- A frame that the Key Server of the station protects. -/
def suppliedFrame : ProtectedFrame where
  key := (Mka.sakOctets 1).1
  an := 0
  pn := 1
  sci := Mka.buildSci (Mka.stationMac 2) 1
  plain := greeting

/-- Such a frame arrives. -/
def suppliedInput : Call :=
  .input (suppliedFrame.octets BlockCipher.null) (List.replicate 1600 0)
    (Octets.zero 16)

/-- A station that receives the frame twice passes it on once at most. -/
theorem station_frame_passed_once :
    (((machine BlockCipher.null).events (stations BlockCipher.null)
      [(.a, hearSupplier BlockCipher.null), (.a, suppliedInput),
        (.a, suppliedInput)]).filterMap passedFrame).Nodup :=
  frames_passed_once (initialised_stations BlockCipher.null) _
    (renewing_stations .rx [suppliedInput, suppliedInput]
      fun call member => by
        simp only [List.mem_cons, List.not_mem_nil, or_false, or_self]
          at member
        rw [member]
        exact not_isEapolMka_of_isMacsec
          (FrameCrypto.wellFormed_sealFrame (by decide) (by decide)
            (by decide) (Nat.le_refl _)).isMacsec)

/-! ## Scripts of two stations -/

/-- The octets that the platform draws for a call. -/
def drawn : Call → Option (Octets 16)
  | .input _ _ rnd => some rnd
  | .buildControlFrame _ rnd => some rnd
  | _ => none

/-- The octets that are drawn for an entry of a script. -/
def Cue.drawn : Cue ι → Option (Octets 16)
  | .act _ (.hear _ rnd) => some rnd
  | .act _ (.build rnd) => some rnd
  | .relay _ _ rnd => some rnd
  | .deliver _ _ rnd => some rnd
  | _ => none

omit [DecidableEq ι] in
theorem drawn_call (crypto : MkaCrypto.Ctx) (scene : Scene ι) (cue : Cue ι) :
    System.drawn (scene.call aes crypto cue).2 = cue.drawn := by
  cases cue with
  | act party cue => cases cue <;> rfl
  | relay | send | deliver => rfl

/-- The stations before they make a call. -/
def opening : Scene Side where
  parties
    | .a => stationControl 1 10 11
    | .b => stationControl 2 5 12
  flight := []
  wire := []

/-- The stations find each other and agree on the SAK that the Key Server
draws. -/
def agreement : List (Cue Side) :=
  [.act .a (.build (Mka.sakOctets 101)), .act .a (.notifySuccess 0),
    .relay .b 0 (Mka.sakOctets 102), .act .b (.build (Mka.sakOctets 103)),
    .act .b (.notifySuccess 0), .relay .a 1 (Mka.sakOctets 104),
    .act .a (.build (Mka.sakOctets 105)), .act .a (.notifySuccess 0),
    .relay .b 2 (Mka.sakOctets 106), .act .b (.build (Mka.sakOctets 1)),
    .act .b (.notifySuccess 0), .relay .a 3 (Mka.sakOctets 107)]

/-- Every run of a script of the two stations is one of the system. -/
theorem stages_stations (aes : BlockCipher) {cues : List (Cue Side)}
    (playable : ∀ event ∈ (stage Mka.stationCkn).events opening cues,
      event.before.Playable event.input) :
    ∃ inputs : List (Side × Call),
      inputs.filterMap (drawn ·.2) = cues.filterMap Cue.drawn ∧
        (∀ side,
          ((machine aes).final (stations aes) inputs side).control =
            ((stage Mka.stationCkn).final opening cues).parties side) ∧
        Transition.Guarded (Faithful aes)
          ((machine aes).events (stations aes) inputs) ∧
        List.Forall₂
          (Mirrors aes (MkaCrypto.keysOf aes Mka.stationCak Mka.stationCkn))
          ((machine aes).events (stations aes) inputs)
          ((stage Mka.stationCkn).events opening cues) := by
  let crypto := MkaCrypto.keysOf aes Mka.stationCak Mka.stationCkn
  have ckn : crypto.psk.ckn = Mka.stationCkn := Mka.ckn_stations aes
  have start : Stages aes crypto [] [] (stations aes) opening := by
    refine ⟨fun party => ?_, fun party => ?_, .nil,
      fun entry member => absurd member List.not_mem_nil,
      fun frame member => absurd member List.not_mem_nil⟩
    · cases party with
      | a => exact plays_stationCtx aes 1 10 11
      | b => exact plays_stationCtx aes 2 5 12
    · obtain ⟨cfg, mi, -, -, result⟩ := initialised_stations aes party
      exact (steady_of_init result).cached
  obtain ⟨stages, faithful⟩ :=
    @Transition.Machine.historySimulation _ _ _ (machine aes) _ _ _
      (stage Mka.stationCkn) (Stages aes crypto) (Scene.call aes crypto)
      (fun scene cue => scene.Playable cue) (Faithful aes)
      (fun past played parties scene cue stages playable =>
        ⟨ckn ▸ stages.step playable, stages.faithful playable⟩)
      _ _ start cues playable
  refine ⟨_, ?_, fun side => (stages.plays side).same, faithful,
    stages.matched⟩
  rw [List.filterMap_map]
  have same :
      ((drawn ·.2) ∘
        fun event : Transition.Event (Scene Side) (Cue Side) Unit =>
          event.before.call aes crypto event.input) =
        Cue.drawn ∘ Transition.Event.input :=
    funext fun event => drawn_call crypto event.before event.input
  rw [same, ← List.filterMap_map, Transition.Machine.map_input_events]

end System

end Macsec
