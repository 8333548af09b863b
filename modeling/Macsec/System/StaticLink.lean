import Mathlib.Data.List.Sort
import Macsec.Api.StaticNumbers
import Macsec.System.Uniqueness

/-!
# Static links

Stations with static SAKs exchange protected frames over a network that may
lose, delay, reorder, duplicate and misdirect them but forges nothing.  A link
between two of them is then a lossy channel: what is passed on was given to the
sender, each plaintext as often as it was given at most.  With a replay window
of zero the channel keeps the order as well.
-/

namespace Macsec

namespace System

open Transition (partOf)

variable {ι : Type} [DecidableEq ι] {aes : BlockCipher} {start : ι → Ctx}

/-- The stations were initialised with static SAKs. -/
def Static (aes : BlockCipher) (start : ι → Ctx) : Prop :=
  ∀ party, ∃ cfg mi, cfg.mode = .staticSak ∧
    init aes cfg mi = (.ok, start party)

/-- The packet number and the plaintext of the frame that a station sends. -/
def sentBy (sender : ι) (event : Event ι) : Option (UInt32 × Bytes) :=
  match event.input with
  | (party, .output plain _) =>
      if party = sender ∧ event.output.ret = .ok then
        some (FrameCrypto.framePn event.output.frame, plain)
      else
        none
  | _ => none

/-- The packet number and the plaintext of the protected frame with a channel
identifier that a station passes to its stack. -/
def passedFrom (sci : Octets 8) (receiver : ι) (event : Event ι) :
    Option (UInt32 × Bytes) :=
  match event.input with
  | (party, .input frame _ _) =>
      if party = receiver ∧ event.output.passToStack = true ∧
          FrameCrypto.frameSci frame = sci then
        some (FrameCrypto.framePn frame, event.output.frame)
      else
        none
  | _ => none

/-- The plaintexts that a station is given to send and sends. -/
def given (sender : ι) (events : List (Event ι)) : List Bytes :=
  (events.filterMap (sentBy sender)).map Prod.snd

/-- The plaintexts that a station passes to its stack out of frames with a
channel identifier. -/
def passed (sci : Octets 8) (receiver : ι) (events : List (Event ι)) :
    List Bytes :=
  (events.filterMap (passedFrom sci receiver)).map Prod.snd

/-- A frame that is sent uses its packet number. -/
theorem part_of_sentBy {event : Event ι} {sender : ι}
    {report : UInt32 × Bytes} (sends : sentBy sender event = some report) :
    ∃ one used, event.part sender = some one ∧
      usedPn .tx one = some used ∧ used.2 = report.1 := by
  obtain ⟨before, ⟨party, call⟩, reply, after⟩ := event
  cases call with
  | output plain txMaxLen =>
      unfold sentBy at sends
      dsimp only at sends
      split_ifs at sends with both
      obtain ⟨rfl, ok⟩ := both
      cases sends
      refine ⟨_, _, if_pos rfl, congrArg (Option.map _) (if_pos ok), rfl⟩
  | input | tick | buildControlFrame | notifyControlTxSuccess
  | notifyControlTxFailure => cases sends

/-- A frame that is passed on uses its packet number. -/
theorem part_of_passedFrom {event : Event ι} {sci : Octets 8} {receiver : ι}
    {report : UInt32 × Bytes}
    (passes : passedFrom sci receiver event = some report) :
    ∃ one used, event.part receiver = some one ∧
      usedPn .rx one = some used ∧ used.2 = report.1 := by
  obtain ⟨before, ⟨party, call⟩, reply, after⟩ := event
  cases call with
  | input frame plain rnd =>
      unfold passedFrom at passes
      dsimp only at passes
      split_ifs at passes with all
      obtain ⟨rfl, passed, -⟩ := all
      cases passes
      refine ⟨_, _, if_pos rfl, congrArg (Option.map _) (if_pos passed), rfl⟩
  | output | tick | buildControlFrame | notifyControlTxSuccess
  | notifyControlTxFailure => cases passes

/-- Where nothing is forged, what is passed on was sent before by the party with
the channel identifier in the frame. -/
theorem sentBy_of_passedFrom {past : List (Event ι)} {parties : ι → Ctx}
    (history : History aes start past parties)
    (enabled : ∀ party, (start party).cfg.mode ≠ .disabled)
    (differ : Function.Injective fun party =>
      (start party).frameCrypto.localSci)
    {input : ι × Call}
    (unforged : Unforged aes past ((machine aes).event parties input))
    {sender receiver : ι} {report : UInt32 × Bytes}
    (passes : passedFrom (start sender).frameCrypto.localSci receiver
      ((machine aes).event parties input) = some report) :
    ∃ earlier ∈ past, sentBy sender earlier = some report := by
  obtain ⟨party, call⟩ := input
  cases call with
  | input frame plain rnd =>
      unfold passedFrom at passes
      obtain ⟨⟨rfl, passed, from_sender⟩, reported⟩ :=
        Option.ite_none_right_eq_some.mp passes
      cases reported
      have steady := history.steady party
      have mode : (parties party).cfg.mode ≠ .disabled := by
        rw [steady.cfg]
        exact enabled party
      have opened := opened_of_passed steady.cached mode passed
      obtain ⟨payload, opens, delivered⟩ := opened.opens
      obtain ⟨earlier, member, other, sent, emits⟩ :=
        unforged party frame plain rnd payload rfl opened.isMacsec opened.valid
          opens
      obtain ⟨long, short, an, pn, form⟩ :=
        history.emitted earlier member other _ sent frame emits
      obtain ⟨sci, -, -, addresses⟩ :=
        @FrameCrypto.sealFrame_fields aes _ an pn
          (start other).frameCrypto.localSci sent
      have content := FrameCrypto.payload_of_opens form short opens
      have same : ((machine aes).event parties
          (party, .input frame plain rnd)).output.frame = sent := by
        refine delivered.trans ?_
        rw [content, form, addresses]
        exact FrameCrypto.take_append_drop_addresses long
      rw [form, sci] at from_sender
      cases differ from_sender
      refine ⟨earlier, member, ?_⟩
      obtain ⟨txMaxLen, called, ok, framed, -⟩ := emits
      unfold sentBy
      rw [called]
      dsimp only
      rw [if_pos ⟨rfl, ok⟩, framed]
      exact congrArg (fun plain => some (_, plain)) same.symm
  | output | tick | buildControlFrame | notifyControlTxSuccess
  | notifyControlTxFailure => cases passes

omit [DecidableEq ι] in
theorem enabled_of_static (static : Static aes start) (party : ι) :
    (start party).cfg.mode ≠ .disabled := by
  obtain ⟨cfg, mi, mode, result⟩ := static party
  rw [init_mode result, mode]
  exact Mode.noConfusion

/-- Whatever is passed on in a run was sent in it. -/
theorem passed_subset_sent (static : Static aes start)
    (differ : Function.Injective fun party =>
      (start party).frameCrypto.localSci)
    {inputs : List (ι × Call)}
    (unforged :
      Transition.Guarded (Unforged aes) ((machine aes).events start inputs))
    (sender receiver : ι) :
    ((machine aes).events start inputs).filterMap
        (passedFrom (start sender).frameCrypto.localSci receiver) ⊆
      ((machine aes).events start inputs).filterMap (sentBy sender) := by
  have enabled := enabled_of_static static
  have initial : History aes start [] start := by
    refine ⟨fun party => ?_, fun event member => absurd member (by simp)⟩
    obtain ⟨cfg, mi, -, result⟩ := static party
    exact steady_of_init result
  have before :=
    @Transition.Machine.guarded_events _ _ _ (machine aes) (Unforged aes)
      (History aes start)
      (fun past event => ∀ report,
        passedFrom (start sender).frameCrypto.localSci receiver event =
            some report →
          ∃ earlier ∈ past, sentBy sender earlier = some report)
      start initial ?_ ?_ inputs unforged
  · intro report member
    obtain ⟨event, inEvents, passes⟩ := List.mem_filterMap.mp member
    obtain ⟨past, rest, split⟩ := List.append_of_mem inEvents
    obtain ⟨earlier, inPast, sends⟩ := before past event rest split _ passes
    refine List.mem_filterMap.mpr ⟨earlier, ?_, sends⟩
    rw [split]
    exact List.mem_append_left _ inPast
  · rintro past parties ⟨party, call⟩ history -
    refine ⟨forall_step (fun party ctx => Steady aes (start party) ctx)
      history.steady ((history.steady party).perform (enabled party) call), ?_⟩
    intro event member
    rcases List.mem_append.mp member with earlier | last
    · exact history.emitted event earlier
    · rw [List.mem_singleton.mp last]
      exact sealed_event history.steady enabled (party, call)
  · intro past parties input history unforged report passes
    exact sentBy_of_passedFrom history enabled differ unforged passes

/-- The packet numbers that a station uses in a direction. -/
theorem pairwise_usedPn (static : Static aes start) (inputs : List (ι × Call))
    {direction : Mka.Direction} {party : ι}
    (protects : direction = .rx →
      (start party).frameCrypto.replayProtect = true) :
    let uses := (partOf party ((machine aes).events start inputs)).filterMap
      (usedPn direction)
    uses.Pairwise (fun used again => used.2 ≠ again.2) ∧
      ((direction = .rx → (start party).frameCrypto.replayWindow = 0) →
        uses.Pairwise fun used again => used.2 < again.2) := by
  intro uses
  obtain ⟨distinct, increasing⟩ :=
    @static_usedPns aes _ direction (static party) protects
      (inputs.filterMap (Transition.inputTo party))
  rw [← partOf_events] at distinct increasing
  exact ⟨List.pairwise_map.mp distinct,
    fun window => List.pairwise_map.mp (increasing window)⟩

/-- What relates the packet numbers that a station uses relates those in the
reports of its steps. -/
theorem pairwise_reports {report : Event ι → Option (UInt32 × Bytes)}
    {direction : Mka.Direction} {party : ι}
    (part : ∀ event used, report event = some used →
      ∃ one tagged, event.part party = some one ∧
        usedPn direction one = some tagged ∧ tagged.2 = used.1)
    {related : UInt32 → UInt32 → Prop} {events : List (Event ι)}
    (uses : ((partOf party events).filterMap (usedPn direction)).Pairwise
      fun used again => related used.2 again.2) :
    (events.filterMap report).Pairwise
      fun used again => related used.1 again.1 := by
  apply List.pairwise_filterMap.mpr
  apply (Transition.pairwise_of_part uses).imp
  intro first second apart used reports again rereports
  obtain ⟨one, tagged, partOne, usesOne, sameOne⟩ := part first used reports
  obtain ⟨two, retagged, partTwo, usesTwo, sameTwo⟩ :=
    part second again rereports
  rw [← sameOne, ← sameTwo]
  exact apart one two partOne partTwo tagged usesOne retagged usesTwo

/-- A link between two static stations passes every plaintext on as often as it
was given to be sent, at most, and with a replay window of zero in the order in
which it was given. -/
theorem static_link (static : Static aes start)
    (differ : Function.Injective fun party =>
      (start party).frameCrypto.localSci)
    (inputs : List (ι × Call))
    (unforged :
      Transition.Guarded (Unforged aes) ((machine aes).events start inputs))
    (sender receiver : ι)
    (protects : (start receiver).frameCrypto.replayProtect = true) :
    let sent := given sender ((machine aes).events start inputs)
    let arrived := passed (start sender).frameCrypto.localSci receiver
      ((machine aes).events start inputs)
    List.Subperm arrived sent ∧
      ((start receiver).frameCrypto.replayWindow = 0 →
        List.Sublist arrived sent) := by
  have subset := passed_subset_sent static differ unforged sender receiver
  obtain ⟨distinct, increasing⟩ :=
    @pairwise_usedPn _ _ _ _ static inputs .rx receiver fun _ => protects
  have once := @pairwise_reports _ _
    (passedFrom (start sender).frameCrypto.localSci receiver) .rx receiver
    (fun _ _ passes => part_of_passedFrom passes) (· ≠ ·) _ distinct
  have arrivedOnce := once.imp fun apart same => apart (congrArg Prod.fst same)
  have fits := List.subperm_of_subset arrivedOnce subset
  obtain ⟨kept, permuted, sublist⟩ := id fits
  refine ⟨⟨_, permuted.map Prod.snd, sublist.map Prod.snd⟩, fun window => ?_⟩
  have sentUp := @pairwise_reports _ _ (sentBy sender) .tx sender
    (fun _ _ sends => part_of_sentBy sends) (· < ·) _
    ((@pairwise_usedPn _ _ _ _ static inputs .tx sender
      Mka.Direction.noConfusion).2 Mka.Direction.noConfusion)
  have arrivedUp := @pairwise_reports _ _
    (passedFrom (start sender).frameCrypto.localSci receiver) .rx receiver
    (fun _ _ passes => part_of_passedFrom passes) (· < ·) _
    (increasing fun _ => window)
  exact (List.sublist_of_subperm_of_pairwise fits arrivedUp sentUp).map
    Prod.snd

/-- No two frames of static stations are protected with the same nonce under
the same key, though all of them share one. -/
theorem static_nonces_distinct (static : Static aes start)
    (differ : Function.Injective fun party =>
      (start party).frameCrypto.localSci)
    (inputs : List (ι × Call)) :
    (((machine aes).events start inputs).filterMap sentNonce).Nodup := by
  refine nodup_sentNonce (fun party => ?_) differ fun party => ?_
  · obtain ⟨cfg, mi, mode, result⟩ := static party
    refine ⟨cfg, mi, ?_, result⟩
    rw [mode]
    exact Mode.noConfusion
  · have distinct := (@pairwise_usedPn _ _ _ _ static inputs .tx party
      Mka.Direction.noConfusion).1
    apply List.pairwise_filterMap.mpr
    apply (List.pairwise_filterMap.mp distinct).imp
    intro first second apart used sends again resends same
    refine apart _ (congrArg (Option.map _) sends) _
      (congrArg (Option.map _) resends) ?_
    rw [same]

/-! ## Two stations -/

theorem static_staticParties (aes : BlockCipher) :
    Static aes (staticParties aes) := by
  intro side
  cases side with
  | a => exact ⟨_, _, rfl, init_staticConfig aes _ _⟩
  | b => exact ⟨_, _, rfl, init_staticConfig aes _ _⟩

/-- What one of two static stations passes on was given to the other. -/
theorem exchange_link :
    let sent := given Side.a
      ((machine BlockCipher.null).events (staticParties BlockCipher.null)
        (exchange BlockCipher.null .b))
    let arrived :=
      passed (staticParties BlockCipher.null .a).frameCrypto.localSci .b
        ((machine BlockCipher.null).events (staticParties BlockCipher.null)
          (exchange BlockCipher.null .b))
    List.Subperm arrived sent ∧
      ((staticParties BlockCipher.null .b).frameCrypto.replayWindow = 0 →
        List.Sublist arrived sent) :=
  static_link (static_staticParties BlockCipher.null)
    (differ_staticParties BlockCipher.null) (exchange BlockCipher.null .b)
    (unforged_exchange BlockCipher.null .b) .a .b rfl

/-- Two static stations send before and after one of them was closed by an
EAPOL-MKA frame. -/
def disturbed : List (Side × Call) :=
  [(.a, .output greeting 1700), (.b, .output greeting 1700),
    (.b, .input headerFrame [] (Octets.zero 16)),
    (.a, .output greeting 1700), (.b, .output greeting 1700)]

/-- The closed station sends one frame, the other one two, all with nonces of
their own. -/
theorem disturbed_nonces_distinct :
    let nonces :=
      ((machine BlockCipher.null).events (staticParties BlockCipher.null)
        disturbed).filterMap sentNonce
    nonces.length = 3 ∧ nonces.Nodup :=
  ⟨by decide +kernel,
    static_nonces_distinct (static_staticParties BlockCipher.null)
      (differ_staticParties BlockCipher.null) disturbed⟩

end System

end Macsec
