import Macsec.Mka.Association
import Macsec.Mka.Replacement
import Macsec.Mka.Settings

/-!
# Frames of companions

A companion of a participant shares its CAK and CAK Name and has another
address, channel identifier and member identifier.  What a companion builds is
accepted and carries no malformed parameter set.  It is still refused if it
distributes a SAK that finds both slots taken.
-/

namespace Macsec

namespace Mka

variable {aes : BlockCipher} {ctx : Ctx} {cak ckn frame : Bytes}

/-- A companion of a participant built a frame. -/
def FromCompanion (aes : BlockCipher) (cak ckn : Bytes) (ctx : Participant)
    (frame : Bytes) : Prop :=
  ∃ sender after rnd frameMaxLen txMeta,
    ReachableFor aes cak ckn sender ∧
      buildTxFrame aes sender rnd frameMaxLen = (.ok, after, frame, txMeta) ∧
      sender.localMac ≠ ctx.localMac ∧ sender.localSci ≠ ctx.localSci ∧
      sender.localMi ≠ ctx.localMi

/-- A frame distributes a SAK other than the latest one while both slots are
taken. -/
def LacksSlot (aes : BlockCipher) (ctx : Ctx) (frame : Bytes) : Prop :=
  (∃ found, scanDistributedSak aes ctx.crypto frame = .ok found ∧
      ctx.toParticipant.sameSak found = false) ∧
    ctx.latestSak.lifecycleState ≠ .none ∧ ctx.oldSak.lifecycleState ≠ .none

/-- An accepted frame was parsed and decoded. -/
theorem decode_of_accepted {pdu : Mkpdu}
    (accepted : classify aes ctx frame = .accepted pdu) :
    parseBasic frame = .ok pdu.basic ∧
      pdu = decode aes ctx.crypto ctx.localMi frame pdu.basic := by
  obtain ⟨basic, -, parsed, -, -, rfl⟩ := checks_of_accepted accepted
  exact ⟨parsed, rfl⟩

/-- A frame that is accepted says what its builder says. -/
theorem mkpdu_of_accepted {sender : Participant} {pdu : Mkpdu}
    (keyed : ctx.crypto.Keyed) (shape : LatestShape sender.latestSak)
    (built : buildFrame aes ctx.crypto sender = .ok frame)
    (accepted : classify aes ctx frame = .accepted pdu) :
    ∃ icv, pdu = sender.mkpdu ctx.crypto.psk.ckn icv ctx.localMi := by
  obtain ⟨wrapped, icv, result, writes, unwraps, -⟩ :=
    Participant.exists_buildFrame aes keyed shape
      (Participant.txMicLen_fits shape keyed.ckn)
  rw [result] at built
  cases built
  obtain ⟨parsed, decoded⟩ := decode_of_accepted accepted
  have basic : pdu.basic = sender.basic ctx.crypto.psk.ckn icv := by
    obtain ⟨-, laid, -⟩ := @Participant.parse_layFrame sender _ _ writes.laid icv
    rw [Participant.laidBasic_paramSets writes,
      ← Participant.frameWith_eq_layFrame writes, parsed] at laid
    exact Except.ok.inj laid
  refine ⟨icv, decoded.trans ?_⟩
  rw [basic]
  exact Participant.decode_frameWith writes icv
    (fun included =>
      (Participant.held_of_includeDistributedSak shape included).1)
    unwraps _

/-- The SAK that a participant offers can be read. -/
theorem not_scanFails_offeredSak {sender : Participant}
    (shape : LatestShape sender.latestSak) :
    scanFails sender.offeredSak = false := by
  cases included : sender.includeDistributedSak with
  | true =>
      obtain ⟨found, offered, -, -, -⟩ := exists_offeredSak shape included
      rw [offered]
      rfl
  | false =>
      rw [Participant.offeredSak, included]
      rfl

/-- So can the SAK Use that it reports. -/
theorem not_scanFails_reportedUse (sender : Participant) :
    scanFails sender.reportedUse = false := by
  unfold Participant.reportedUse
  split
  next => rfl
  next => rfl

/-- What a companion builds is accepted. -/
theorem accepted_of_companion (keyed : ctx.crypto.Keyed)
    (verifying : ctx.verifyIcv = true)
    (keys : ctx.crypto = MkaCrypto.keysOf aes cak ckn)
    (companion : FromCompanion aes cak ckn ctx.toParticipant frame) :
    ∃ pdu, classify aes ctx frame = .accepted pdu ∧
      scanFails pdu.distributedSak = false ∧ scanFails pdu.sakUse = false := by
  obtain ⟨sender, after, rnd, frameMaxLen, txMeta, reachable, sent, otherMac,
    otherSci, otherMi⟩ := companion
  have sameKeys : sender.crypto = ctx.crypto := reachable.crypto.trans keys.symm
  have inv := reachable.reachable.inv
  have shape := (Participant.ensureForTx_keeps inv rnd).inv.latest
  obtain ⟨-, -, -, isBuilt, -⟩ := buildTxFrame_ok inv (sameKeys ▸ keyed) sent
  obtain ⟨mac, sci, mi, -, -⟩ := Settings.mk.inj
    (@Participant.settings_ensureForTx sender.toParticipant rnd)
  obtain ⟨other, icv, otherBuilt, accepted⟩ :=
    classify_buildFrame keyed verifying shape
      (Participant.txMicLen_fits shape keyed.ckn) (mac ▸ otherMac)
      (sci ▸ otherSci) (mi ▸ otherMi)
  rw [sameKeys, otherBuilt] at isBuilt
  cases isBuilt
  exact ⟨_, accepted, not_scanFails_offeredSak shape,
    not_scanFails_reportedUse _⟩

namespace Participant

variable {ctx : Participant} {pdu : Mkpdu}

/-- An MKPDU that can be read is taken unless it lacks a slot. -/
theorem takes_iff_of_read (read : scanFails pdu.distributedSak = false) :
    ctx.Takes pdu ↔
      ¬(ctx.Distributes pdu ∧ ctx.latestSak.lifecycleState ≠ .none ∧
        ctx.oldSak.lifecycleState ≠ .none) := by
  unfold Takes
  rw [read, not_and, not_and_or, not_not, not_not]
  exact ⟨fun takes => takes.2, fun room => ⟨rfl, room⟩⟩

/-- An MKPDU that lacks a slot is refused as busy. -/
theorem processMkpdu_busy (inv : ctx.Inv) (distributes : ctx.Distributes pdu)
    (present : ctx.latestSak.lifecycleState ≠ .none)
    (occupied : ctx.oldSak.lifecycleState ≠ .none) (rnd : Octets 16)
    (nowMs : UInt32) : ctx.processMkpdu pdu rnd nowMs = (.busy, ctx) := by
  obtain ⟨found, scan, different⟩ := distributes
  have busy : ctx.parseDistributedSak pdu.distributedSak = (.busy, ctx) := by
    rw [scan, parseDistributedSak]
    rcases ctx.adoptDistributedSak_cases inv.latest found with
      ⟨same, -⟩ | ⟨-, -, -, result⟩ | ⟨-, room, -⟩
    · rw [same] at different
      exact Bool.noConfusion different
    · exact result
    · exact absurd room (not_or.mpr ⟨present, occupied⟩)
  rw [ctx.processMkpdu_eq inv pdu rnd nowMs, busy]
  dsimp only
  rw [if_pos ⟨Err.noConfusion, Err.noConfusion⟩]

/-- A SAK that a Key Server distributes becomes the candidate if it finds a
slot. -/
theorem processMkpdu_adopts (inv : ctx.Inv) (takes : ctx.Takes pdu)
    {found : DistributedSak} (scan : pdu.distributedSak = .ok found)
    (different : ctx.sameSak found = false)
    (wins : pdu.basic.keyServerPriority ≤ ctx.keyServerPriority)
    (rnd : Octets 16) (nowMs : UInt32) :
    (ctx.processMkpdu pdu rnd nowMs).2.latestSak = found.candidate := by
  have distributes : ctx.Distributes pdu := ⟨found, scan, different⟩
  have served : ¬ctx.ServesNewPeer pdu := fun serves =>
    UInt8.not_lt.mpr wins serves.2
  rcases ctx.processMkpdu_slots inv pdu rnd nowMs with
    ⟨kept, -⟩ | ⟨-, sak, enters, slots⟩
  · exact absurd ⟨takes, Or.inl distributes⟩ kept
  · have latest : (ctx.processMkpdu pdu rnd nowMs).2.latestSak = sak :=
      congrArg Slots.latest slots
    rw [latest]
    cases enters with
    | @adopted other scan' _ _ =>
        rw [scan] at scan'
        cases scan'
        rfl
    | generated regenerates => exact absurd regenerates.1 served
    | dropped serves _ => exact absurd serves served

end Participant

/-! ## Stations -/

/-- Every script that a station can play ends in the state of a context of its
association. -/
theorem exists_stationFinal (aes : BlockCipher)
    {station priority incarnation : UInt8} (cues : List Cue)
    (playable : ∀ event ∈
      (stage stationCkn).events (newcomer station priority incarnation) cues,
        event.input.Playable event.before) :
    ∃ ctx, ReachableFor aes stationCak stationCkn ctx ∧
      StationPlays aes ctx
        ((stage stationCkn).final (newcomer station priority incarnation)
          cues) := by
  have initialised :
      init aes stationCak stationCkn (stationMac station) 1 priority 2000
          (memberId incarnation) =
        (.ok, stationCtx aes station priority incarnation) :=
    (init_eq aes rfl (by decide) (by decide) _ _ _ _ _).1
  have plays :=
    @StationPlays.stationFinal aes _ _
      (plays_stationCtx aes station priority incarnation) cues playable
  exact ⟨_, ⟨_, _, _, _, _, _, initialised, _, rfl⟩, plays⟩

/-- Stations are companions of each other. -/
theorem fromCompanion_of_final (aes : BlockCipher)
    {station priority incarnation : UInt8} (cues : List Cue)
    (playable : ∀ event ∈ (stage stationCkn).events
        (newcomer station priority incarnation) cues,
      event.input.Playable event.before)
    {rnd : Octets 16} {receiver : Participant} :
    let sender :=
      (stage stationCkn).final (newcomer station priority incarnation) cues
    (Cue.build rnd).Playable sender →
      (sender.localMac ≠ receiver.localMac ∧
        sender.localSci ≠ receiver.localSci ∧
        sender.localMi ≠ receiver.localMi) →
      FromCompanion aes stationCak stationCkn receiver
        (stationFrame aes (sender.ensureForTx rnd).2) := by
  intro sender due other
  obtain ⟨ctx, reachable, plays⟩ := exists_stationFinal aes cues playable
  obtain ⟨frame, built, result⟩ := @Plays.build aes _ _ _ plays rnd due
  have same : stationFrame aes (sender.ensureForTx rnd).2 = frame := by
    unfold stationFrame frameOf
    rw [built]
  rw [same]
  refine ⟨_, _, _, _, _, reachable, result, ?_⟩
  rw [plays.same]
  exact other

/-- Station 2, restarted with a member identifier, once it heard from station 1
that it is a live peer. -/
def restarted (incarnation : UInt8) : Participant :=
  (stage stationCkn).final (newcomer 2 5 incarnation)
    [.hear ((newcomer 1 10 11).listing (newcomer 2 5 incarnation))
      (sakOctets 9) 5]

end Mka

end Macsec
