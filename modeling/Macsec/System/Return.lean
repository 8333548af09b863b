import Macsec.System.Origins

/-!
# SAKs that return

A station forgets a SAK when it is retired, so an MKPDU that was delayed makes
the station take the SAK up again, with a packet number and a replay window that
start anew.  This is the only way for a packet number to be used twice: where no
SAK returns, a station sends no two frames with one packet number under one key,
and passes no protected frame to its stack twice.
-/

namespace Macsec

namespace System

open Transition (partOf)

variable {ι : Type} [DecidableEq ι] {aes : BlockCipher}

/-! ## Numbers that are used once -/

/-- A step sends a frame, protected under a key with a packet number. -/
def Sends (event : Transition.Event Ctx Call Reply)
    (used : Bytes × UInt32) : Prop :=
  ∃ plain txMaxLen, event.input = .output plain txMaxLen ∧
    event.output.ret = .ok ∧
    used = (event.before.frameCrypto.txSak.key,
      FrameCrypto.framePn event.output.frame)

/-- A step passes a frame to the stack that was protected under a key with an
association number and a packet number. -/
def Passes (event : Transition.Event Ctx Call Reply)
    (used : Bytes × Fin 4 × UInt32) : Prop :=
  ∃ frame plain rnd, event.input = .input frame plain rnd ∧
    event.output.ret = .ok ∧ event.output.passToStack = true ∧
    used =
      ((event.before.frameCrypto.rxSak (FrameCrypto.frameAn frame)).key,
        FrameCrypto.frameAn frame, FrameCrypto.framePn frame)

/-! ## A station takes up a SAK again -/

/-- Stations with one pre-shared key make a run in which nothing is forged, no
octets are drawn twice, and a key has one key number and one association
number. -/
structure Honest (aes : BlockCipher) (cak ckn : Bytes) (start : ι → Ctx)
    (inputs : List (ι × Call)) : Prop where
  grouped : Grouped aes cak ckn start
  fresh : (inputs.filterMap (drawn ·.2)).Nodup
  faithful : Transition.Guarded (Faithful aes)
    ((machine aes).events start inputs)
  identified : ∀ first ∈ (machine aes).events start inputs,
    ∀ second ∈ (machine aes).events start inputs,
      ∀ one two identity other,
        (first.after one).mka.slots.Lists identity →
        (second.after two).mka.slots.Lists other →
          identity.1 = other.1 → identity = other

/-- A station and its Key Server protect a frame under the SAK on which they
agreed, and the station receives the one that was sent to it.  It falls silent
for the Key Server, which draws the next SAK.  When that one is in use and the
Key Server is forgotten in turn, the MKPDU with the first SAK arrives once more.
The station protects another frame, and receives the old one again. -/
def returning : List (Cue Side) :=
  agreement ++
    [.send .a greeting, .send .b greeting, .deliver .a 1 (Mka.sakOctets 108),
      .act .b (.tick 100000), .act .a (.build (Mka.sakOctets 109)),
      .act .a (.notifySuccess 0), .relay .b 4 (Mka.sakOctets 2),
      .act .b (.build (Mka.sakOctets 110)), .act .b (.notifySuccess 100000),
      .relay .a 5 (Mka.sakOctets 111), .act .b (.build (Mka.sakOctets 112)),
      .relay .a 6 (Mka.sakOctets 113), .act .a (.tick 200000),
      .relay .a 3 (Mka.sakOctets 114), .send .a (List.replicate 60 8),
      .deliver .a 1 (Mka.sakOctets 115)]

theorem playable_returning :
    ∀ event ∈ (stage Mka.stationCkn).events opening returning,
      event.before.Playable event.input := by
  decide +kernel

/-- The first frame that a station protects under the SAK. -/
def earliestFrame (station : UInt8) (plain : Bytes) : ProtectedFrame where
  key := (Mka.sakOctets 1).1
  an := 0
  pn := 1
  sci := Mka.buildSci (Mka.stationMac station) 1
  plain := plain

/-- The station sends two first frames. -/
theorem dispatched_returning :
    ((stage Mka.stationCkn).events opening returning).filterMap dispatched =
      [(.a, earliestFrame 1 greeting), (.b, earliestFrame 2 greeting),
        (.a, earliestFrame 1 (List.replicate 60 8))] := by
  decide +kernel

/-- It receives one frame twice. -/
theorem delivered_returning :
    ((stage Mka.stationCkn).events opening returning).filterMap delivered =
      [(.a, earliestFrame 2 greeting, Mka.sakOctets 108),
        (.a, earliestFrame 2 greeting, Mka.sakOctets 115)] := by
  decide +kernel

/-- The script is an honest run of the stations. -/
theorem honest_returning (aes : BlockCipher) :
    ∃ inputs,
      Honest aes Mka.stationCak Mka.stationCkn (stations aes) inputs ∧
        List.Forall₂
          (Mirrors aes (MkaCrypto.keysOf aes Mka.stationCak Mka.stationCkn))
          ((machine aes).events (stations aes) inputs)
          ((stage Mka.stationCkn).events opening returning) := by
  obtain ⟨inputs, draws, -, faithful, mirrors⟩ :=
    stages_stations aes playable_returning
  have fresh : (inputs.filterMap (drawn ·.2)).Nodup := by
    rw [draws]
    decide
  have made := made_of_run (grouped_stations aes) inputs
    (authentic_of_faithful faithful)
  refine ⟨inputs, ⟨grouped_stations aes, fresh, faithful, ?_⟩, mirrors⟩
  intro first inFirst second inSecond one two identity other lists relists
  exact (made first inFirst one identity lists).identity_unique fresh
    (made second inSecond two other relists)

/-- Where a script sends a frame, the sender sends it with its number. -/
theorem exists_sends {crypto : MkaCrypto.Ctx}
    {events : List (Event ι)}
    {played : List (Transition.Event (Scene ι) (Cue ι) Unit)}
    (mirrors : List.Forall₂ (Mirrors aes crypto) events played) {party : ι}
    {frame : ProtectedFrame}
    (member : (party, frame) ∈ played.filterMap dispatched) :
    ∃ event ∈ partOf party events,
      (∃ txMaxLen, event.input = .output frame.plain txMaxLen) ∧
        Sends event (frame.key, frame.pn) := by
  obtain ⟨place, found, sends⟩ := List.mem_filterMap.mp member
  obtain ⟨⟨before, input, reply, after⟩, inEvents, mirror⟩ :=
    Transition.exists_of_forall₂ mirrors found
  obtain ⟨txMaxLen, rfl, ok, octets, key⟩ := mirror.sends party frame sends
  refine ⟨_, List.mem_filterMap.mpr ⟨_, inEvents, if_pos rfl⟩,
    ⟨txMaxLen, rfl⟩, frame.plain, txMaxLen, rfl, ok, ?_⟩
  obtain ⟨-, pn, -⟩ :=
    @FrameCrypto.sealFrame_fields aes frame.key frame.an frame.pn frame.sci
      frame.plain
  dsimp only at octets key ⊢
  rw [key, octets]
  exact congrArg (Prod.mk _) pn.symm

/-- Where it delivers a frame, the receiver passes it on. -/
theorem exists_passes {crypto : MkaCrypto.Ctx}
    {events : List (Event ι)}
    {played : List (Transition.Event (Scene ι) (Cue ι) Unit)}
    (mirrors : List.Forall₂ (Mirrors aes crypto) events played) {party : ι}
    {frame : ProtectedFrame} {rnd : Octets 16}
    (member : (party, frame, rnd) ∈ played.filterMap delivered) :
    ∃ event ∈ partOf party events, drawn event.input = some rnd ∧
      Passes event (frame.key, frame.an, frame.pn) := by
  obtain ⟨place, found, delivers⟩ := List.mem_filterMap.mp member
  obtain ⟨⟨before, input, reply, after⟩, inEvents, mirror⟩ :=
    Transition.exists_of_forall₂ mirrors found
  obtain ⟨⟨plain, rfl⟩, ok, passed, key⟩ :=
    mirror.passes party frame rnd delivers
  refine ⟨_, List.mem_filterMap.mpr ⟨_, inEvents, if_pos rfl⟩, rfl, _, plain,
    rnd, rfl, ok, passed, ?_⟩
  obtain ⟨-, pn, an, -⟩ :=
    @FrameCrypto.sealFrame_fields aes frame.key frame.an frame.pn frame.sci
      frame.plain
  change _ = (((before party).frameCrypto.rxSak
    (FrameCrypto.frameAn (frame.octets aes))).key,
    FrameCrypto.frameAn (frame.octets aes),
    FrameCrypto.framePn (frame.octets aes))
  rw [show FrameCrypto.frameAn (frame.octets aes) = frame.an from an,
    show FrameCrypto.framePn (frame.octets aes) = frame.pn from pn]
  exact congrArg (·, frame.an, frame.pn) key.symm

/-! ## Frames that are sent -/

/-- Where no SAK returns and random octets are fresh, no two frames are sent
under one key with one packet number. -/
theorem numbers_sent_once {cfg : Config} {mi : Octets 12} {start : Ctx}
    (mode : cfg.mode = .mkaPsk) (initialised : init aes cfg mi = (.ok, start))
    (calls : List Call)
    (renewing : Transition.Guarded (Renewing aes .tx)
      ((Macsec.machine aes).events start calls)) :
    Transition.Once Sends ((Macsec.machine aes).events start calls) := by
  refine .of_nodup (nodup_sentNumber mode initialised calls renewing) ?_
  rintro ⟨before, input, reply, after⟩ used ⟨plain, txMaxLen, rfl, ok, rfl⟩
  exact if_pos ok

/-- A station sends two frames under the SAK of its Key Server. -/
theorem station_numbers_sent_once :
    let events :=
      (Macsec.machine BlockCipher.null).events
        (stationCtx BlockCipher.null 1 10 11)
        [hearSupplier BlockCipher.null, .output greeting 1700,
          .output greeting 1700]
    Transition.Once Sends events ∧
      events.filterMap sentNumber =
        [((Mka.sakOctets 1).1, 1), ((Mka.sakOctets 1).1, 2)] := by
  refine ⟨numbers_sent_once rfl (init_stationCtx BlockCipher.null 1 10 11) _
    (renewing_of_plain rfl (init_stationCtx BlockCipher.null 1 10 11)
      Mka.Direction.noConfusion _ fun call member => ?_), ?_⟩
  · simp only [List.mem_cons, List.not_mem_nil, or_false, or_self] at member
    rw [member]
    trivial
  · decide +kernel

/-- An honest run is not enough for that. -/
theorem not_forall_numbers_sent_once :
    ¬∃ aes, ∀ (cak ckn : Bytes) (start : Side → Ctx)
      (inputs : List (Side × Call)), Honest aes cak ckn start inputs →
        ∀ party, Transition.Once Sends
          (partOf party ((machine aes).events start inputs)) := by
  rintro ⟨aes, distinct⟩
  obtain ⟨inputs, honest, mirrors⟩ := honest_returning aes
  have once := distinct _ _ _ inputs honest .a
  obtain ⟨first, inFirst, ⟨room, call⟩, sends⟩ :=
    @exists_sends _ _ _ _ _ _ mirrors .a (earliestFrame 1 greeting)
      (by rw [dispatched_returning]; decide)
  obtain ⟨second, inSecond, ⟨space, again⟩, resends⟩ :=
    @exists_sends _ _ _ _ _ _ mirrors .a (earliestFrame 1 (List.replicate 60 8))
      (by rw [dispatched_returning]; decide)
  cases once.eq inFirst inSecond sends resends
  have same := call.symm.trans again
  simp only [Call.output.injEq] at same
  exact absurd same.1 (by decide)

/-! ## Frames that are passed on -/

/-- Where no SAK returns and random octets are fresh, a station that checks the
packet numbers that it receives passes no two frames with one packet number
under one key and one association number to the stack. -/
theorem numbers_passed_once {cfg : Config} {mi : Octets 12} {start : Ctx}
    (mode : cfg.mode = .mkaPsk) (initialised : init aes cfg mi = (.ok, start))
    (protects : cfg.replayProtect = true) (calls : List Call)
    (renewing : Transition.Guarded (Renewing aes .rx)
      ((Macsec.machine aes).events start calls)) :
    Transition.Once Passes ((Macsec.machine aes).events start calls) := by
  refine .of_nodup
    (nodup_passedNumber mode initialised protects calls renewing) ?_
  rintro ⟨before, input, reply, after⟩ used
    ⟨frame, plain, rnd, rfl, -, passed, rfl⟩
  exact if_pos passed

/-- A station receives one frame of its Key Server twice, and passes it on
once. -/
theorem station_numbers_passed_once :
    let events :=
      (Macsec.machine BlockCipher.null).events
        (stationCtx BlockCipher.null 1 10 11)
        [hearSupplier BlockCipher.null, suppliedInput, suppliedInput]
    Transition.Once Passes events ∧
      events.filterMap passedNumber = [((Mka.sakOctets 1).1, 0, 1)] := by
  refine ⟨numbers_passed_once rfl (init_stationCtx BlockCipher.null 1 10 11)
    rfl _ (renewing_of_plain rfl (init_stationCtx BlockCipher.null 1 10 11)
      (fun _ => rfl) _ fun call member => ?_), ?_⟩
  · simp only [List.mem_cons, List.not_mem_nil, or_false, or_self] at member
    rw [member]
    exact not_isEapolMka_of_isMacsec
      (FrameCrypto.wellFormed_sealFrame (by decide) (by decide) (by decide)
        (Nat.le_refl _)).isMacsec
  · decide +kernel

/-- An honest run is not enough for that, not even with a window of 64 or
less. -/
theorem not_forall_numbers_passed_once :
    ¬∃ aes, ∀ (cak ckn : Bytes) (start : Side → Ctx)
      (inputs : List (Side × Call)), Honest aes cak ckn start inputs →
        (∀ party, (start party).cfg.replayProtect = true ∧
          (start party).cfg.replayWindow ≤ 64) →
        ∀ party, Transition.Once Passes
          (partOf party ((machine aes).events start inputs)) := by
  rintro ⟨aes, distinct⟩
  obtain ⟨inputs, honest, mirrors⟩ := honest_returning aes
  have settings (side : Side) :
      (stations aes side).cfg.replayProtect = true ∧
        (stations aes side).cfg.replayWindow ≤ 64 := by
    cases side with
    | a | b => exact ⟨rfl, UInt32.le_refl 64⟩
  have once := distinct _ _ _ inputs honest settings .a
  obtain ⟨first, inFirst, draws, passes⟩ :=
    @exists_passes _ _ _ _ _ _ mirrors .a (earliestFrame 2 greeting)
      (Mka.sakOctets 108) (by rw [delivered_returning]; decide)
  obtain ⟨second, inSecond, redraws, repasses⟩ :=
    @exists_passes _ _ _ _ _ _ mirrors .a (earliestFrame 2 greeting)
      (Mka.sakOctets 115) (by rw [delivered_returning]; decide)
  cases once.eq inFirst inSecond passes repasses
  exact absurd (draws.symm.trans redraws) (by decide)

end System

end Macsec
