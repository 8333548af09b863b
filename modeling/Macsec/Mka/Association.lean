import Macsec.Mka.Displacement
import Macsec.Mka.Scripts

/-!
# Connectivity associations

Only the integrity check value of a frame ties it to a connectivity association.
A participant never compares the CAK Name of a frame with its own, and the name
enters the derivation of the keys only as its first 16 octets, filled up with
zeros.  So a frame affects a participant if its integrity check value was
computed under the participant's ICK, whatever name the frame carries.
-/

namespace Macsec

namespace MkaCrypto

variable {aes : BlockCipher} {cak ckn other : Bytes}

/-- The key material under another CAK Name. -/
def Ctx.named (crypto : Ctx) (name : Bytes) : Ctx :=
  { crypto with psk := { crypto.psk with ckn := name } }

theorem Ctx.Keyed.named {crypto : Ctx} {name : Bytes} (keyed : crypto.Keyed)
    (nameFits : name.length ≤ cknMaxLen) : (crypto.named name).Keyed :=
  ⟨keyed.ick, keyed.kek, nameFits⟩

/-- What of a CAK name enters the key derivation. -/
def keyId (ckn : Bytes) : Octets 16 := ckn.slice 0 16

/-- Names with the same first 16 octets derive the same keys from a CAK. -/
theorem keysOf_of_keyId (same : keyId ckn = keyId other)
    (cknPresent : ckn.length ≠ 0) (cknFits : ckn.length ≤ cknMaxLen)
    (otherPresent : other.length ≠ 0) (otherFits : other.length ≤ cknMaxLen) :
    (keysOf aes cak ckn).keys = (keysOf aes cak other).keys := by
  have derived (label : Bytes) (length : Nat) :
      deriveOne aes { psk := { cak, ckn, valid := true }, keys := init.keys }
          label length =
        deriveOne aes
          { psk := { cak, ckn := other, valid := true }, keys := init.keys }
          label length := by
    unfold deriveOne
    unfold keyId at same
    dsimp only
    rw [same]
  unfold keysOf setPsk
  split
  next => rfl
  next =>
      rw [if_neg (by simp [cknPresent, cknFits]),
        if_neg (by simp [otherPresent, otherFits])]
      unfold deriveIckKek
      dsimp only
      rw [derived, derived]
      split_ifs
      · rfl
      · generalize deriveOne aes _ ickLabel _ = first
        generalize deriveOne aes _ kekLabel _ = second
        cases first with
        | error ret => rfl
        | ok ick =>
            cases second with
            | error ret => rfl
            | ok kek => rfl

end MkaCrypto

namespace Mka

variable {aes : BlockCipher} {ctx : Ctx} {cak ckn : Bytes}

/-! ## Frames and the associations they belong to -/

/-- The states some sequence of calls reaches from a participant that was
initialised for a connectivity association. -/
def ReachableFor (aes : BlockCipher) (cak ckn : Bytes) (ctx : Ctx) : Prop :=
  ∃ localMac portId priority interval mi start,
    init aes cak ckn localMac portId priority interval mi = (.ok, start) ∧
      (machine aes).Reachable start ctx

theorem ReachableFor.reachable (reachable : ReachableFor aes cak ckn ctx) :
    Reachable aes ctx := by
  obtain ⟨localMac, portId, priority, interval, mi, start, run⟩ := reachable
  exact ⟨cak, ckn, localMac, portId, priority, interval, mi, start, run⟩

/-- The participant keeps the keys of its association. -/
theorem ReachableFor.crypto (reachable : ReachableFor aes cak ckn ctx) :
    ctx.crypto = MkaCrypto.keysOf aes cak ckn := by
  obtain ⟨localMac, portId, priority, interval, mi, start, initialised, run⟩ :=
    reachable
  refine run.invariant
    (fun ctx => ctx.crypto = MkaCrypto.keysOf aes cak ckn) ?_ ?_
  · rw [(init_ok initialised).1]
    rfl
  · intro ctx call same
    exact (@perform_keys aes ctx call).1.trans same

/-- A frame carries a CAK Name, and its integrity check value was computed under
a key. -/
def Sealed (aes : BlockCipher) (key name frame : Bytes) : Prop :=
  ∃ basic, parseBasic frame = .ok basic ∧ basic.cakName = name ∧
    MkaCrypto.cmac aes key (frame.slice 0 basic.micLen).1 = .ok basic.icv

/-- Under different keys a frame has different integrity check values. -/
def Separates (aes : BlockCipher) (key key' frame : Bytes) : Prop :=
  key ≠ key' → ∀ basic, parseBasic frame = .ok basic →
    MkaCrypto.cmac aes key (frame.slice 0 basic.micLen).1 ≠
      MkaCrypto.cmac aes key' (frame.slice 0 basic.micLen).1

/-- The peer record, the key state or the result of the election changed. -/
def Affected (before after : Participant) : Prop :=
  after.peer ≠ before.peer ∨ after.slots ≠ before.slots ∨
    after.keyServerNextKeyNumber ≠ before.keyServerNextKeyNumber ∨
    after.keyServerNextAn ≠ before.keyServerNextAn ∨
    after.localKeyServer ≠ before.localKeyServer

theorem not_affected_self (ctx : Participant) : ¬Affected ctx ctx := by
  rintro (peer | slots | number | an | server)
  · exact peer rfl
  · exact slots rfl
  · exact number rfl
  · exact an rfl
  · exact server rfl

/-- A frame that affects a participant carries an integrity check value under
the participant's ICK. -/
theorem carriesMic_of_affected (reachable : Reachable aes ctx) {frame : Bytes}
    {rnd : Octets 16} {nowMs : UInt32}
    (affected : Affected ctx.toParticipant
      (input aes ctx frame rnd nowMs).2.toParticipant) {basic : Basic}
    (parsed : parseBasic frame = .ok basic) :
    CarriesMic aes ctx frame basic := by
  by_contra forged
  obtain ⟨lastIcvValid, micWork, result⟩ :=
    unauthentic_frame_leaves_participant reachable
      (Or.inr (Or.inr ⟨basic, parsed, Or.inr (Or.inr forged)⟩)) rnd nowMs
  rw [result] at affected
  exact not_affected_self _ affected

/-- So a frame under a separated key does not affect it. -/
theorem sameKey_of_affected (reachable : ReachableFor aes cak ckn ctx)
    {key name frame : Bytes} {rnd : Octets 16} {nowMs : UInt32}
    (isSealed : Sealed aes key name frame)
    (separates :
      Separates aes key (MkaCrypto.keysOf aes cak ckn).keys.ick frame)
    (affected : Affected ctx.toParticipant
      (input aes ctx frame rnd nowMs).2.toParticipant) :
    key = (MkaCrypto.keysOf aes cak ckn).keys.ick := by
  obtain ⟨basic, parsed, -, mic⟩ := isSealed
  have carries := carriesMic_of_affected reachable.reachable affected parsed
  by_contra other
  apply separates other basic parsed
  rw [CarriesMic, reachable.crypto] at carries
  rw [mic, carries]

/-! ## Frames of another association -/

/-- What a participant builds carries its CAK Name and is sealed under its ICK.
-/
theorem sealed_of_buildFrame {crypto : MkaCrypto.Ctx} (keyed : crypto.Keyed)
    {sender : Participant} (shape : LatestShape sender.latestSak)
    {frame : Bytes} (built : buildFrame aes crypto sender = .ok frame) :
    Sealed aes crypto.keys.ick crypto.psk.ckn frame := by
  obtain ⟨wrapped, icv, same, writes, -, mic⟩ :=
    Participant.exists_buildFrame aes keyed shape
      (Participant.txMicLen_fits shape keyed.ckn)
  rw [same] at built
  cases built
  rw [Participant.frameWith_eq_layFrame writes]
  rw [Participant.writeFrame_eq_layFrame writes] at mic
  refine ⟨_, (Participant.parse_layFrame writes.laid icv).2.1, rfl, ?_⟩
  rw [(sender.covered_layFrame _ _ icv).2]
  exact mic

/-- What a participant builds without a SAK is accepted under the same ICK,
whatever its CAK Name. -/
theorem classify_of_sameIck {receiver : Ctx} {crypto : MkaCrypto.Ctx}
    (keyed : receiver.crypto.Keyed) (verifying : receiver.verifyIcv = true)
    (keyedSender : crypto.Keyed)
    (sameIck : crypto.keys.ick = receiver.crypto.keys.ick)
    {sender : Participant} (other : receiver.toParticipant.Other sender)
    (silent : sender.includeDistributedSak = false) :
    ∃ frame icv,
      buildFrame aes crypto sender = .ok frame ∧
      classify aes receiver frame =
        .accepted (sender.mkpdu crypto.psk.ckn icv receiver.localMi) := by
  obtain ⟨shape, otherMac, otherSci, otherMi⟩ := other
  obtain ⟨wrapped, icv, built, writes, -, mic⟩ :=
    Participant.exists_buildFrame aes keyedSender shape
      (Participant.txMicLen_fits shape keyedSender.ckn)
  have nothing (included : sender.includeDistributedSak = true) : False :=
    Bool.noConfusion (silent.symm.trans included)
  refine ⟨_, icv, built, ?_⟩
  rw [Participant.writeFrame_eq_layFrame writes, sameIck] at mic
  have accepted :=
    classify_layFrame keyed verifying writes.laid mic otherMac otherSci otherMi
  rw [Participant.laidBasic_paramSets writes,
    ← Participant.frameWith_eq_layFrame writes] at accepted
  rw [accepted, Participant.decode_frameWith writes icv
    (fun included => (nothing included).elim)
    (fun included => (nothing included).elim)]

/-- A station that was just initialised for a connectivity association. -/
def associate (aes : BlockCipher) (cak ckn : Bytes)
    (station priority incarnation : UInt8) : Ctx :=
  initialCtx aes cak ckn (stationMac station) 1 priority 2000
    (memberId incarnation)

theorem reachableFor_associate (aes : BlockCipher) {cak ckn : Bytes}
    (cakSize : MkaCrypto.keyLenValid cak.length = true)
    (cknPresent : ckn.length ≠ 0) (cknFits : ckn.length ≤ MkaCrypto.cknMaxLen)
    (station priority incarnation : UInt8) :
    ReachableFor aes cak ckn
      (associate aes cak ckn station priority incarnation) :=
  ⟨_, _, _, _, _, _,
    (init_eq aes cakSize cknPresent cknFits (stationMac station) 1 priority
      2000 (memberId incarnation)).1, Transition.Machine.Reachable.refl _ _⟩

/-- The first frame of a station affects a station that was just initialised
with the same ICK. -/
theorem exists_affected {crypto : MkaCrypto.Ctx} (keyedSender : crypto.Keyed)
    (cakSize : MkaCrypto.keyLenValid cak.length = true)
    (cknPresent : ckn.length ≠ 0) (cknFits : ckn.length ≤ MkaCrypto.cknMaxLen)
    (sameIck : crypto.keys.ick = (MkaCrypto.keysOf aes cak ckn).keys.ick) :
    let receiver := associate aes cak ckn 1 10 11
    ∃ frame, buildFrame aes crypto (newcomer 2 20 12) = .ok frame ∧
      Affected receiver.toParticipant
        (input aes receiver frame (sakOctets 1) 5).2.toParticipant := by
  intro receiver
  have reachable :=
    reachableFor_associate aes cakSize cknPresent cknFits 1 10 11
  have keys := reachable.reachable.keyed
  have other : receiver.toParticipant.Other (newcomer 2 20 12) := by
    change (newcomer 1 10 11).Other (newcomer 2 20 12)
    decide
  obtain ⟨frame, icv, built, accepted⟩ :=
    @classify_of_sameIck aes receiver crypto keys.1 keys.2 keyedSender
      (sameIck.trans (congrArg (·.keys.ick) reachable.crypto.symm)) _ other
      (by decide)
  refine ⟨frame, built, Or.inl fun same => ?_⟩
  have takes : receiver.Takes
      ((newcomer 2 20 12).mkpdu crypto.psk.ckn icv receiver.localMi) :=
    ⟨rfl, fun _ => Or.inl rfl⟩
  have inv : receiver.toParticipant.Inv :=
    (resting_completeInit (stationMac 1) 1 10 2000 (memberId 11)).inv
  rw [(input_accepted accepted (sakOctets 1) 5).2,
    (Participant.processMkpdu_follows inv takes (sakOctets 1) 5).1] at same
  exact Bool.noConfusion (congrArg Peer.valid same)

/-- So does the frame that a station sends first. -/
theorem exists_affected_sent {peerCak name : Bytes}
    (cakSize : MkaCrypto.keyLenValid cak.length = true)
    (cknPresent : ckn.length ≠ 0) (cknFits : ckn.length ≤ MkaCrypto.cknMaxLen)
    (peerSize : MkaCrypto.keyLenValid peerCak.length = true)
    (namePresent : name.length ≠ 0)
    (nameFits : name.length ≤ MkaCrypto.cknMaxLen)
    (sameIck : (MkaCrypto.keysOf aes peerCak name).keys.ick =
      (MkaCrypto.keysOf aes cak ckn).keys.ick) :
    let receiver := associate aes cak ckn 1 10 11
    ∃ frame after txMeta,
      buildTxFrame aes (associate aes peerCak name 2 20 12) (sakOctets 1)
          maxFrameLen = (.ok, after, frame, txMeta) ∧
        Affected receiver.toParticipant
          (input aes receiver frame (sakOctets 1) 5).2.toParticipant := by
  intro receiver
  have plays :=
    plays_initialCtx aes peerSize namePresent nameFits (stationMac 2) 1 20 2000
      (memberId 12)
  obtain ⟨frame, built, affected⟩ :=
    exists_affected plays.keyed cakSize cknPresent cknFits sameIck
  obtain ⟨sent, sentBuilt, result⟩ :=
    @Plays.build aes _ _ _ plays (sakOctets 1)
      (show (Cue.build (sakOctets 1)).Playable (newcomer 2 20 12) by decide)
  have same : frame = sent := by
    have twice := built.symm.trans sentBuilt
    injection twice
  exact ⟨frame, _, _, same ▸ result, affected⟩

/-- What a participant sends was built under its keys. -/
theorem sealed_of_buildTxFrame {name : Bytes} {after : Ctx} {rnd : Octets 16}
    {frameMaxLen : Nat} {frame : Bytes} {txMeta : TxMeta}
    (reachable : ReachableFor aes cak ckn ctx)
    (built :
      buildTxFrame aes ctx rnd frameMaxLen = (.ok, after, frame, txMeta))
    (named : (MkaCrypto.keysOf aes cak ckn).psk.ckn = name) :
    Sealed aes (MkaCrypto.keysOf aes cak ckn).keys.ick name frame := by
  have inv := reachable.reachable.inv
  have keyed := reachable.reachable.keyed.1
  rcases @buildTxFrame_cases aes ctx inv keyed rnd frameMaxLen with
    ⟨failed, -⟩ | ⟨-, -, -, sent, frameBuilt, result⟩
  · rw [built] at failed
    exact absurd rfl failed
  · rw [built] at result
    cases result
    have shape := (Participant.ensureForTx_keeps inv rnd).inv.latest
    have isSealed := sealed_of_buildFrame keyed shape frameBuilt
    rw [reachable.crypto, named] at isSealed
    exact isSealed

/-- A frame that carries another CAK Name affects no participant of a
connectivity association precisely if its integrity check value is computed
under another key than the ICK of the association.  Two associations are kept
apart precisely if their ICKs differ. -/
theorem association_kept_iff (aes : BlockCipher) {cak ckn : Bytes}
    (cakSize : MkaCrypto.keyLenValid cak.length = true)
    (cknPresent : ckn.length ≠ 0)
    (cknFits : ckn.length ≤ MkaCrypto.cknMaxLen) :
    (∀ key name, name.length ≤ MkaCrypto.cknMaxLen →
      ((∀ ctx frame rnd nowMs, ReachableFor aes cak ckn ctx →
        Sealed aes key name frame →
        Separates aes key (MkaCrypto.keysOf aes cak ckn).keys.ick frame →
        Affected ctx.toParticipant
          (input aes ctx frame rnd nowMs).2.toParticipant →
        name = ckn) ↔
      (key = (MkaCrypto.keysOf aes cak ckn).keys.ick → name = ckn))) ∧
    ∀ peerCak name, MkaCrypto.keyLenValid peerCak.length = true →
      name.length ≠ 0 → name.length ≤ MkaCrypto.cknMaxLen →
      ((∀ sender after rnd frameMaxLen frame txMeta ctx rnd' nowMs,
        ReachableFor aes peerCak name sender →
        buildTxFrame aes sender rnd frameMaxLen = (.ok, after, frame, txMeta) →
        ReachableFor aes cak ckn ctx →
        Separates aes (MkaCrypto.keysOf aes peerCak name).keys.ick
          (MkaCrypto.keysOf aes cak ckn).keys.ick frame →
        Affected ctx.toParticipant
          (input aes ctx frame rnd' nowMs).2.toParticipant →
        name = ckn) ↔
      ((MkaCrypto.keysOf aes peerCak name).keys.ick =
          (MkaCrypto.keysOf aes cak ckn).keys.ick →
        name = ckn)) := by
  have receiver :=
    reachableFor_associate aes cakSize cknPresent cknFits 1 10 11
  have keyed : (MkaCrypto.keysOf aes cak ckn).Keyed :=
    receiver.crypto ▸ receiver.reachable.keyed.1
  constructor
  · intro key name nameFits
    constructor
    · rintro kept rfl
      obtain ⟨frame, built, affected⟩ :=
        @exists_affected aes _ _ _ (keyed.named nameFits) cakSize cknPresent
          cknFits rfl
      have isSealed :=
        sealed_of_buildFrame (keyed.named nameFits) (by decide) built
      exact kept _ _ _ _ receiver isSealed (fun differ => absurd rfl differ)
        affected
    · intro bound ctx frame rnd nowMs reachable isSealed separates affected
      exact bound (sameKey_of_affected reachable isSealed separates affected)
  · intro peerCak name peerSize namePresent nameFits
    constructor
    · intro kept same
      obtain ⟨frame, after, txMeta, sent, affected⟩ :=
        exists_affected_sent cakSize cknPresent cknFits peerSize namePresent
          nameFits same
      exact kept _ _ _ _ _ _ _ _ _
        (reachableFor_associate aes peerSize namePresent nameFits 2 20 12) sent
        receiver (fun differ => absurd same differ) affected
    · intro bound sender after rnd frameMaxLen frame txMeta ctx rnd' nowMs
        reachableSender built reachable separates affected
      exact bound (sameKey_of_affected reachable
        (sealed_of_buildTxFrame reachableSender built
          (MkaCrypto.ckn_keysOf aes peerSize namePresent nameFits))
        separates affected)

/-- Two names that differ in a trailing zero are not kept apart. -/
theorem padded_association_not_kept :
    ¬∀ sender after rnd frameMaxLen frame txMeta ctx rnd' nowMs,
      ReachableFor BlockCipher.null stationCak [1, 0] sender →
      buildTxFrame BlockCipher.null sender rnd frameMaxLen =
        (.ok, after, frame, txMeta) →
      ReachableFor BlockCipher.null stationCak [1] ctx →
      Separates BlockCipher.null
        (MkaCrypto.keysOf BlockCipher.null stationCak [1, 0]).keys.ick
        (MkaCrypto.keysOf BlockCipher.null stationCak [1]).keys.ick frame →
      Affected ctx.toParticipant
        (input BlockCipher.null ctx frame rnd' nowMs).2.toParticipant →
      ([1, 0] : Bytes) = [1] := by
  intro kept
  have same : (MkaCrypto.keysOf BlockCipher.null stationCak [1, 0]).keys =
      (MkaCrypto.keysOf BlockCipher.null stationCak [1]).keys :=
    MkaCrypto.keysOf_of_keyId (by decide) (by decide) (by decide) (by decide)
      (by decide)
  have equal :=
    ((association_kept_iff BlockCipher.null rfl (by decide) (by decide)).2
      stationCak [1, 0] rfl (by decide) (by decide)).mp kept
      (congrArg (·.ick) same)
  exact absurd equal (by decide)

/-- Under every cipher a participant accepts the frames of another one with the
same CAK and another CAK Name. -/
theorem not_forall_association_kept :
    ¬∃ aes, ∀ (cak ckn name : Bytes) (sender after ctx : Ctx)
      (rnd rnd' : Octets 16) (frameMaxLen : Nat) (frame : Bytes)
      (txMeta : TxMeta) (nowMs : UInt32),
        ReachableFor aes cak name sender →
        buildTxFrame aes sender rnd frameMaxLen = (.ok, after, frame, txMeta) →
        ReachableFor aes cak ckn ctx →
        Affected ctx.toParticipant
          (input aes ctx frame rnd' nowMs).2.toParticipant →
        name = ckn := by
  rintro ⟨aes, alwaysKept⟩
  have same : (MkaCrypto.keysOf aes stationCak [1, 0]).keys =
      (MkaCrypto.keysOf aes stationCak [1]).keys :=
    MkaCrypto.keysOf_of_keyId (by decide) (by decide) (by decide) (by decide)
      (by decide)
  obtain ⟨frame, after, txMeta, sent, affected⟩ :=
    @exists_affected_sent aes stationCak [1] stationCak [1, 0] rfl (by decide)
      (by decide) rfl (by decide) (by decide) (congrArg (·.ick) same)
  have equal :=
    alwaysKept _ _ _ _ _ _ _ _ _ _ _ _
      (reachableFor_associate aes rfl (by decide) (by decide) 2 20 12) sent
      (reachableFor_associate aes rfl (by decide) (by decide) 1 10 11) affected
  exact absurd equal (by decide)

end Mka

end Macsec
