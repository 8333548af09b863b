import Macsec.Mka.Companions

/-!
# What a built MKPDU tells its receivers

A frame that a participant builds parses back to the announcement of its
sender and verifies at every participant of its connectivity association.
Whichever parameter sets it carries, the SAK that it distributes and the use
of the SAKs that it reports are those of the sender.
-/

namespace Macsec

namespace Mka

/-- A context with another MACsec capability, which no function of `mka.h`
changes after initialisation. -/
def Ctx.withCapability (ctx : Ctx) (desired : Bool) (capability : UInt8) :
    Ctx :=
  { ctx with macsecDesired := desired, macsecCapability := capability }

/-- What the Basic Parameter Set of a frame must say about its sender. -/
structure Basic.Announces (basic : Basic) (sender : Participant)
    (ckn : Bytes) : Prop where
  srcMac : basic.srcMac = sender.localMac
  keyServerPriority : basic.keyServerPriority = sender.keyServerPriority
  keyServer : basic.keyServer = sender.localKeyServer
  macsecDesired : basic.macsecDesired = sender.macsecDesired
  macsecCapability :
    basic.macsecCapability = sender.macsecCapability &&& 0x03
  sci : basic.sci = sender.localSci
  actorMi : basic.actorMi = sender.localMi
  actorMn : basic.actorMn = sender.localMn
  cakName : basic.cakName = ckn

variable {aes : BlockCipher} {ctx built : Ctx} {cak ckn frame : Bytes}
  {rnd : Octets 16} {frameMaxLen : Nat} {txMeta : TxMeta}

/-! ## Announcements -/

theorem Participant.announces_basic (sender : Participant) (ckn : Bytes)
    (icv : Octets 16) : (sender.basic ckn icv).Announces sender ckn :=
  ⟨rfl, rfl, rfl, rfl, rfl, rfl, rfl, rfl, rfl⟩

/-- Generating a SAK does not change what a participant announces. -/
theorem Basic.Announces.before {basic : Basic} {sender : Participant}
    (announces : basic.Announces (sender.ensureForTx rnd).2 ckn) :
    basic.Announces sender ckn := by
  rcases sender.ensureForTx_cases rnd with same | ⟨-, -, -, result⟩
  · rw [same] at announces
    exact announces
  · rw [result] at announces
    exact ⟨announces.srcMac, announces.keyServerPriority,
      announces.keyServer, announces.macsecDesired,
      announces.macsecCapability, announces.sci, announces.actorMi,
      announces.actorMn, announces.cakName⟩

/-- The name of the association is part of the key material. -/
theorem ReachableFor.cakName (reachable : ReachableFor aes cak ckn ctx) :
    ctx.crypto.psk.ckn = ckn := by
  rw [reachable.crypto]
  obtain ⟨localMac, portId, priority, interval, mi, start, initialised, -⟩ :=
    reachable
  obtain ⟨cakSize, cknPresent, cknFits⟩ := sizes_of_init initialised
  exact MkaCrypto.ckn_keysOf aes cakSize cknPresent cknFits

theorem inv_withCapability (inv : ctx.toParticipant.Inv) (desired : Bool)
    (capability : UInt8) :
    (ctx.withCapability desired capability).toParticipant.Inv :=
  ⟨inv.slots, inv.peer, inv.nextKeyNumber, inv.noError⟩

/-- A script goes on with any capability. -/
theorem Plays.withCapability {crypto : MkaCrypto.Ctx} {state : Participant}
    (plays : Plays crypto ctx state) (desired : Bool) (capability : UInt8) :
    Plays crypto (ctx.withCapability desired capability)
      { state with macsecDesired := desired, macsecCapability := capability } where
  keyed := plays.keyed
  sameKeys := plays.sameKeys
  verifying := plays.verifying
  inv := ⟨plays.inv.slots, plays.inv.peer, plays.inv.nextKeyNumber,
    plays.inv.noError⟩
  same := by rw [← plays.same]; rfl

/-- A built frame is laid out from the state of its sender, with a SAK that
unwraps and the CMAC of what it covers. -/
theorem exists_frameWith (inv : ctx.toParticipant.Inv)
    (keyed : ctx.crypto.Keyed)
    (builds :
      buildTxFrame aes ctx rnd frameMaxLen = (.ok, built, frame, txMeta)) :
    let participant := (ctx.toParticipant.ensureForTx rnd).2
    let ckn := ctx.crypto.psk.ckn
    built = { ctx with toParticipant := participant } ∧
      txMeta = participant.txMeta ∧
      ∃ wrapped icv, frame = participant.frameWith ckn wrapped icv ∧
        participant.Writes ckn wrapped ∧
        (participant.includeDistributedSak = true →
          MkaCrypto.unwrapSak aes ctx.crypto wrapped 32 =
            .ok participant.latestSak.sak) ∧
        MkaCrypto.cmac aes ctx.crypto.keys.ick
          (participant.writeFrame ckn
            (participant.distributedOctets wrapped)) = .ok icv := by
  dsimp only
  obtain ⟨-, same, sameMeta, layout, -⟩ := buildTxFrame_ok inv keyed builds
  have shape := (Participant.ensureForTx_keeps inv rnd).inv.latest
  obtain ⟨wrapped, icv, result, writes, unwraps, mic⟩ :=
    Participant.exists_buildFrame aes keyed shape
      (Participant.txMicLen_fits shape keyed.ckn)
  rw [layout, Except.ok.injEq] at result
  exact ⟨same, sameMeta, wrapped, icv, result, writes, unwraps, mic⟩

/-- A built MKPDU is an EAPOL-MKA frame of the length that its header states, it
parses to the announcement of its sender, whatever capability that has, and it
verifies at every participant of the same association. -/
theorem built_mkpdu_authenticates (reachable : ReachableFor aes cak ckn ctx)
    (desired : Bool) (capability : UInt8)
    (builds :
      buildTxFrame aes (ctx.withCapability desired capability) rnd
        frameMaxLen = (.ok, built, frame, txMeta)) :
    frame.length ≤ 512 ∧ isEapolMka frame = true ∧
      ∃ basic, parseBasic frame = .ok basic ∧
        frame.length = 18 + basic.eapolLen ∧
        basic.Announces (ctx.withCapability desired capability).toParticipant
          ckn ∧
        ∀ receiver, ReachableFor aes cak ckn receiver →
          (verifyIcv aes receiver frame basic).1 = .ok := by
  have inv := inv_withCapability reachable.reachable.inv desired capability
  have keyed : (ctx.withCapability desired capability).crypto.Keyed :=
    reachable.reachable.keyed.1
  have sameCkn :
      (ctx.withCapability desired capability).crypto.psk.ckn = ckn :=
    reachable.cakName
  obtain ⟨-, -, wrapped, icv, layout, writes, -, mic⟩ :=
    exists_frameWith inv keyed builds
  rw [sameCkn] at layout writes mic
  generalize (ctx.withCapability desired capability).toParticipant = sender
    at *
  have length := Participant.length_frameWith writes icv
  have fits := writes.frameFits
  have least : 50 ≤ (sender.ensureForTx rnd).2.txMicLen ckn.length := by
    unfold Participant.txMicLen
    omega
  rw [Participant.writeFrame_eq_layFrame writes] at mic
  obtain ⟨isMka, parsed, -⟩ :=
    @Participant.parse_layFrame (sender.ensureForTx rnd).2 _ _ writes.laid icv
  rw [layout]
  refine ⟨length ▸ fits, ?_, (sender.ensureForTx rnd).2.basic ckn icv, ?_, ?_,
    ((sender.ensureForTx rnd).2.announces_basic ckn icv).before, ?_⟩
  · rw [Participant.frameWith_eq_layFrame writes]
    exact isMka
  · rw [Participant.frameWith_eq_layFrame writes, parsed,
      Participant.laidBasic_paramSets writes]
  · rw [length]
    change _ = 18 + (_ + icvLen - 18)
    omega
  · intro receiver companion
    rw [Participant.frameWith_eq_layFrame writes,
      ← Participant.laidBasic_paramSets writes]
    apply Participant.verifies_layFrame companion.reachable.keyed.1 writes.laid
    rw [companion.crypto, ← reachable.crypto]
    exact mic

/-- The first MKPDU of a Key Server that distributes a SAK, with a capability of
its own, parses back and verifies at the station it is meant for. -/
theorem supplier_authenticates :
    ∃ ctx receiver built frame txMeta,
      ReachableFor BlockCipher.null stationCak stationCkn ctx ∧
        ReachableFor BlockCipher.null stationCak stationCkn receiver ∧
        buildTxFrame BlockCipher.null (ctx.withCapability false 3)
          (sakOctets 1) maxFrameLen = (.ok, built, frame, txMeta) ∧
        txMeta.containsDistributedSak = true ∧
        frame.length ≤ 512 ∧ isEapolMka frame = true ∧
        ∃ basic, parseBasic frame = .ok basic ∧
          frame.length = 18 + basic.eapolLen ∧
          basic.Announces (ctx.withCapability false 3).toParticipant
            stationCkn ∧
          (verifyIcv BlockCipher.null receiver frame basic).1 = .ok := by
  obtain ⟨ctx, sender, plays⟩ :=
    @exists_stationFinal BlockCipher.null 1 10 11
      [.hear admirer (Octets.zero 16) 1] (by decide)
  obtain ⟨other, receiver, -⟩ :=
    @exists_stationFinal BlockCipher.null 2 20 12 [] (by decide)
  obtain ⟨frame, built, result, -⟩ :=
    @StationPlays.build _ _ _ (plays.withCapability false 3) (sakOctets 1)
      (by decide)
  obtain ⟨fits, isMka, basic, parsed, length, announces, verifies⟩ :=
    built_mkpdu_authenticates sender false 3 result
  exact ⟨_, _, _, _, _, sender, receiver, result, by decide, fits, isMka, basic,
    parsed, length, announces, verifies _ receiver⟩

/-! ## SAKs -/

/-- Two slots hold the same key under the same key number and AN. -/
def Sak.Matches (slot sak : Sak) : Prop :=
  slot.sak = sak.sak ∧ slot.keyNumber = sak.keyNumber ∧ slot.an = sak.an

/-- What SAK Use must say about the latest SAK of its sender: all zero if there
is none. -/
structure SakUse.Reports (report : SakUse) (sender : Participant) : Prop where
  keyNumber : report.keyNumber = sender.latestSak.keyNumber
  an : report.an = sender.latestSak.an
  latestTx : report.latestTx = sender.latestSak.txInstalled
  latestRx : report.latestRx = sender.latestSak.rxInstalled
  zero : sender.latestSak.lifecycleState = .none →
    report = ⟨Octets.zero 12, 0, 0, false, false⟩
  keyServerMi : sender.latestSak.lifecycleState ≠ .none →
    report.keyServerMi =
      if sender.localKeyServer then sender.localMi else sender.peer.mi

theorem Participant.reports_latestSakUse {sender : Participant}
    (shape : LatestShape sender.latestSak) :
    sender.latestSakUse.Reports sender := by
  unfold latestSakUse
  by_cases absent : sender.latestSak.lifecycleState = .none
  · rw [if_neg (not_not_intro absent)]
    refine ⟨?_, ?_, ?_, ?_, fun _ => rfl, fun present => absurd absent present⟩
    all_goals rw [shape.eq_cleared absent]; rfl
  · rw [if_pos absent]
    exact ⟨rfl, rfl, rfl, rfl, fun none => absurd none absent, fun _ => rfl⟩

/-- A participant whose old slot is empty holds a SAK that it found, whether it
knew it before or not. -/
theorem Participant.matches_adoptDistributedSak {receiver : Participant}
    (shape : LatestShape receiver.latestSak)
    (free : receiver.oldSak.lifecycleState = .none) {found : DistributedSak} :
    let outcome := receiver.adoptDistributedSak found
    outcome.2.latestSak.Matches found.toSak ∧
      (¬receiver.latestSak.Matches found.toSak → outcome.1 = .ok) := by
  dsimp only
  rcases receiver.adoptDistributedSak_cases shape found with
    ⟨known, result⟩ | ⟨-, -, occupied, -⟩ | ⟨-, -, result⟩
  · have same : receiver.latestSak.Matches found.toSak := by
      simp only [sameSak, Bool.and_eq_true, beq_iff_eq] at known
      obtain ⟨⟨⟨⟨-, number⟩, an⟩, length⟩, octets⟩ := known
      exact ⟨(compare_eq_zero length).mp octets, number, an⟩
    rw [result]
    exact ⟨same, fun other => absurd same other⟩
  · exact absurd free occupied
  · rw [result]
    exact ⟨⟨rfl, rfl, rfl⟩, fun _ => rfl⟩

/-- Unwrapping depends on the KEK alone. -/
theorem unwrapSak_of_sameKek {crypto other : MkaCrypto.Ctx}
    (keyed : crypto.Keyed) (keyedOther : other.Keyed)
    (sameKek : crypto.keys.kek = other.keys.kek) (wrapped : Bytes)
    (sakMaxLen : Nat) :
    MkaCrypto.unwrapSak aes crypto wrapped sakMaxLen =
      MkaCrypto.unwrapSak aes other wrapped sakMaxLen := by
  unfold MkaCrypto.unwrapSak
  rw [keyed.kek, keyedOther.kek, sameKek]

/-- A SAK that is distributed arrives at every participant with the same KEK and
an empty old slot.  SAK Use says what its sender holds, all zero if that is no
SAK. -/
theorem built_saks_survive (reachable : Reachable aes ctx)
    (builds :
      buildTxFrame aes ctx rnd frameMaxLen = (.ok, built, frame, txMeta)) :
    (txMeta.containsDistributedSak = true →
      (built.latestSak.sak.length = 16 ∨ built.latestSak.sak.length = 32) ∧
        ∀ receiver, Reachable aes receiver →
          receiver.crypto.keys.kek = ctx.crypto.keys.kek →
          receiver.oldSak.lifecycleState = .none →
          let outcome := receiver.toParticipant.parseDistributedSak
            (scanDistributedSak aes receiver.crypto frame)
          outcome.2.latestSak.Matches built.latestSak ∧
            (¬receiver.latestSak.Matches built.latestSak →
              outcome.1 = .ok)) ∧
    (txMeta.containsSakUse = true →
      ∃ report, scanSakUse frame = .ok report ∧
        report.Reports built.toParticipant) := by
  obtain ⟨same, sameMeta, wrapped, icv, layout, writes, unwraps, -⟩ :=
    exists_frameWith reachable.inv reachable.keyed.1 builds
  have sameParticipant :
      built.toParticipant = (ctx.toParticipant.ensureForTx rnd).2 := by
    rw [same]
  have shape := (Participant.ensureForTx_keeps reachable.inv rnd).inv.latest
  rw [← sameParticipant] at sameMeta layout writes unwraps shape
  rw [sameMeta, layout]
  constructor
  · intro included
    obtain ⟨held, -, -⟩ :=
      Participant.held_of_includeDistributedSak shape included
    obtain ⟨found, offered, sak, number, an⟩ :=
      exists_offeredSak shape included
    refine ⟨by simpa [sakLenValid] using held.length, ?_⟩
    intro receiver isReceiver sameKek free
    have scanned :
        scanDistributedSak aes receiver.crypto
            (built.toParticipant.frameWith ctx.crypto.psk.ckn wrapped icv) =
          .ok found := by
      rw [Participant.scanDistributedSak_frameWith writes icv fun _ => held,
        offered]
      intro _
      rw [unwrapSak_of_sameKek isReceiver.keyed.1 reachable.keyed.1 sameKek,
        unwraps included]
    rw [scanned]
    have adopts :=
      @Participant.matches_adoptDistributedSak receiver.toParticipant
        isReceiver.inv.latest free found
    have carries : found.toSak.Matches built.latestSak := ⟨sak, number, an⟩
    unfold Sak.Matches at adopts carries ⊢
    rw [carries.1, carries.2.1, carries.2.2] at adopts
    exact adopts
  · intro included
    refine ⟨built.latestSakUse, ?_, Participant.reports_latestSakUse shape⟩
    rw [Participant.scanSakUse_frameWith writes, Participant.reportedUse,
      if_pos (show built.includeSakUse = true from included)]

/-- The SAK of a Key Server arrives at the station it is meant for, and so does
what the Key Server reports about it. -/
theorem supplied_sak_survives :
    ∃ (ctx receiver built : Ctx) (frame : Bytes) (txMeta : TxMeta)
      (report : SakUse),
      buildTxFrame BlockCipher.null ctx (sakOctets 1) maxFrameLen =
          (.ok, built, frame, txMeta) ∧
        (built.latestSak.sak = (sakOctets 1).1 ∧
          ((receiver.toParticipant.parseDistributedSak
            (scanDistributedSak BlockCipher.null receiver.crypto
              frame)).2).latestSak.Matches built.latestSak) ∧
        scanSakUse frame = .ok report ∧
        report.keyNumber = 1 ∧ report.keyServerMi = memberId 11 := by
  obtain ⟨ctx, sender, plays⟩ :=
    @exists_stationFinal BlockCipher.null 1 10 11
      [.hear admirer (Octets.zero 16) 1] (by decide)
  obtain ⟨receiver, isReceiver, playsReceiver⟩ :=
    @exists_stationFinal BlockCipher.null 2 20 12 [] (by decide)
  obtain ⟨frame, built, result, builtPlays⟩ :=
    @StationPlays.build _ _ _ plays (sakOctets 1) (by decide)
  obtain ⟨distributes, uses⟩ := built_saks_survive sender.reachable result
  have free : receiver.oldSak.lifecycleState = .none := by
    rw [playsReceiver.same]
    decide
  have sameKek : receiver.crypto.keys.kek = ctx.crypto.keys.kek := by
    rw [sender.crypto, isReceiver.crypto]
  obtain ⟨report, scanned, reports⟩ := uses (by decide)
  have arrived :=
    ((distributes (by decide)).2 receiver isReceiver.reachable sameKek free).1
  have number := reports.keyNumber
  have server := reports.keyServerMi
  rw [builtPlays.same] at number server
  refine ⟨ctx, receiver, built, frame, _, report, result, ⟨?_, arrived⟩, scanned,
    ?_, ?_⟩
  · rw [builtPlays.same]
    decide
  · rw [number]
    decide
  · rw [server (by decide)]
    decide

/-- A Key Server meets another station while its SAK is in use and is then
beaten by a third one. -/
def beaten : List Cue :=
  [.hear admirer (Octets.zero 16) 1] ++ provision 1 0 1 ++
    [.hear (newcomer 3 20 13) (sakOctets 2) 2,
      .hear ((newcomer 4 5 14).listing (newcomer 1 10 11)) (sakOctets 3) 3]

/-- The station then reports its old SAK alone, and as Key Server of the latest
one nobody. -/
theorem not_forall_keyServerMi_reported :
    ¬∃ aes, ∀ (ctx built : Ctx) (rnd : Octets 16) (frameMaxLen : Nat)
      (frame : Bytes) (txMeta : TxMeta),
      Reachable aes ctx →
        buildTxFrame aes ctx rnd frameMaxLen = (.ok, built, frame, txMeta) →
        txMeta.containsSakUse = true →
          ∃ report, scanSakUse frame = .ok report ∧
            report.keyServerMi =
              if built.localKeyServer then built.localMi
              else built.peer.mi := by
  rintro ⟨aes, alwaysReported⟩
  obtain ⟨ctx, reachable, plays⟩ := @exists_final aes 1 10 11 beaten (by decide)
  obtain ⟨frame, built, result, builtPlays⟩ :=
    @StationPlays.build _ _ _ plays (sakOctets 4) (by decide)
  obtain ⟨report, scanned, named⟩ :=
    alwaysReported _ _ _ _ _ _ reachable result (by decide)
  obtain ⟨-, -, wrapped, icv, layout, writes, -⟩ :=
    exists_frameWith reachable.inv reachable.keyed.1 result
  rw [layout, Participant.scanSakUse_frameWith writes, plays.same] at scanned
  rw [builtPlays.same] at named
  have reported :
      (((stage stationCkn).final (newcomer 1 10 11) beaten).ensureForTx
        (sakOctets 4)).2.reportedUse =
        .ok ⟨Octets.zero 12, 0, 0, false, false⟩ := by
    rfl
  rw [reported] at scanned
  cases scanned
  revert named
  decide

end Mka

end Macsec
