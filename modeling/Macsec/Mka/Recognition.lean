import Macsec.Mka.Scripts

/-!
# Recognition in peer lists

A participant with a peer names it in the peer list of every MKPDU it builds.
The peer finds itself there, and nobody else does, unless the frame is too short
to be scanned: a name of less than four octets and no SAK Use.
-/

namespace Macsec

namespace Mka

namespace Participant

variable {ctx : Participant}

/-- The MKPDUs for the peer carry SAK Use: the peer is live, and there is a SAK
or a Key Server to generate one. -/
def CarriesSakUse (ctx : Participant) : Prop :=
  ctx.peer.live = true ∧
    (ctx.latestSak.lifecycleState ≠ .none ∨
      ctx.oldSak.lifecycleState ≠ .none ∨ ctx.localKeyServer = true)

instance (ctx : Participant) : Decidable ctx.CarriesSakUse :=
  inferInstanceAs (Decidable (_ ∧ _))

/-- Generating a SAK leaves the peer record alone. -/
theorem ensureForTx_peer (rnd : Octets 16) :
    (ctx.ensureForTx rnd).2.peer = ctx.peer := by
  rcases ctx.ensureForTx_cases rnd with same | ⟨-, -, -, generated⟩
  · rw [same]
  · rw [generated]

theorem includeSakUse_ensureForTx (inv : ctx.Inv)
    (valid : ctx.peer.valid = true) (rnd : Octets 16) :
    (ctx.ensureForTx rnd).2.includeSakUse = true ↔ ctx.CarriesSakUse := by
  have old : ctx.oldSak.lifecycleState ≠ .none ↔
      ctx.oldSak.lifecycleState = .retiring := by
    refine ⟨inv.old.retiring, fun retiring => ?_⟩
    rw [retiring]
    exact SakState.noConfusion
  simp only [CarriesSakUse, includeSakUse, ensureForTx_peer, valid,
    Bool.and_true, Bool.and_eq_true, Bool.or_eq_true, bne_iff_ne, beq_iff_eq,
    ne_eq, old]
  rw [and_comm]
  apply and_congr_right
  intro live
  by_cases absent : ctx.latestSak.lifecycleState = .none
  · by_cases server : ctx.localKeyServer = true
    · have generated :
          ctx.ensureForTx rnd = ctx.keyServerEnsureSak rnd := by
        rw [ensureForTx, server, valid, live]
        rfl
      rw [generated, keyServerEnsureSak_of_none server
        (by rw [valid, live]; rfl) absent]
      simp [pendingSak, server]
    · have idle : (ctx.ensureForTx rnd).2 = ctx := by
        rw [ensureForTx, if_neg (by simp [server])]
      rw [idle]
      simp [absent, server]
  · have idle : (ctx.ensureForTx rnd).2 = ctx := by
      rcases ctx.ensureForTx_cases rnd with same | ⟨-, -, none, -⟩
      · exact same
      · exact absurd none absent
    rw [idle]
    simp [absent]

/-- A frame with a peer list is long enough to be scanned exactly if the name
has four octets or SAK Use follows. -/
theorem long_iff (listed : ctx.includePeerList = true) (cknLen : Nat) :
    90 ≤ ctx.txMicLen cknLen + icvLen ↔
      4 ≤ cknLen ∨ ctx.includeSakUse = true := by
  have follows (included : ctx.includeDistributedSak = true) :
      ctx.includeSakUse = true := by
    simp only [includeDistributedSak, Bool.and_eq_true] at included
    obtain ⟨⟨⟨⟨⟨-, valid⟩, live⟩, distributable⟩, -⟩, -⟩ := included
    have present : ctx.latestSak.lifecycleState ≠ .none := by
      intro absent
      rw [sakDistributable, absent] at distributable
      exact Bool.noConfusion distributable
    simp [includeSakUse, valid, live, present]
  have icvBound : icvLen = 16 := rfl
  rw [txMicLen, listed]
  cases sakUse : ctx.includeSakUse with
  | true =>
      simp only [if_true, or_true, iff_true]
      omega
  | false =>
      have silent : ctx.includeDistributedSak = false := by
        rw [← Bool.not_eq_true]
        intro included
        rw [follows included] at sakUse
        exact Bool.noConfusion sakUse
      rw [silent]
      simp only [if_true, Bool.false_eq_true, if_false, or_false]
      omega

end Participant

variable {aes : BlockCipher} {ctx : Ctx}

/-- What a search in the peer lists of a built frame finds. -/
theorem frameContainsPeerEntry_buildTxFrame (inv : ctx.toParticipant.Inv)
    (keyed : ctx.crypto.Keyed) {rnd : Octets 16} {frameMaxLen : Nat}
    (valid : ctx.peer.valid = true)
    (built : (buildTxFrame aes ctx rnd frameMaxLen).1 = .ok)
    (mi : Octets 12) :
    frameContainsPeerEntry (buildTxFrame aes ctx rnd frameMaxLen).2.2.1 mi =
      if mi = ctx.peer.mi ∧
          (4 ≤ ctx.crypto.psk.ckn.length ∨ ctx.CarriesSakUse) then
        some (ctx.peer.mn,
          if ctx.peer.live then paramLivePeerList
          else paramPotentialPeerList)
      else
        none := by
  have peer := ctx.toParticipant.ensureForTx_peer rnd
  have shape := (Participant.ensureForTx_keeps inv rnd).inv.latest
  have listed :
      (ctx.toParticipant.ensureForTx rnd).2.includePeerList = true := by
    rw [Participant.includePeerList, peer]
    exact valid
  rcases @buildTxFrame_cases aes ctx inv keyed rnd frameMaxLen with
    ⟨refused, -⟩ | ⟨-, -, -, frame, result, whole⟩
  · exact absurd built refused
  · obtain ⟨wrapped, icv, same, writes, -, -⟩ :=
      Participant.exists_buildFrame aes keyed shape
        (Participant.txMicLen_fits shape keyed.ckn)
    rw [result, Except.ok.injEq] at same
    rw [whole, same,
      Participant.frameContainsPeerEntry_frameWith writes icv mi]
    have listing :
        (ctx.toParticipant.ensureForTx rnd).2.peerListSet.type =
          if ctx.peer.live then paramLivePeerList
          else paramPotentialPeerList := by
      rw [Participant.peerListSet, peer]
    simp only [listed, true_and, peer, listing,
      Participant.long_iff listed,
      Participant.includeSakUse_ensureForTx inv valid]
    simp only [eq_comm]

/-- The peer recognises itself in a frame that a reachable participant builds
for it, with its message number and its liveness, and nobody else does,
precisely if the name of the connectivity association has four octets or the
frame carries SAK Use. -/
theorem peer_recognised_iff (reachable : Reachable aes ctx)
    (rnd : Octets 16) (frameMaxLen : Nat) (valid : ctx.peer.valid = true)
    (built : (buildTxFrame aes ctx rnd frameMaxLen).1 = .ok) :
    (∀ mi,
      frameContainsPeerEntry (buildTxFrame aes ctx rnd frameMaxLen).2.2.1 mi =
        if mi = ctx.peer.mi then
          some (ctx.peer.mn,
            if ctx.peer.live then paramLivePeerList
            else paramPotentialPeerList)
        else
          none) ↔
      4 ≤ ctx.crypto.psk.ckn.length ∨ ctx.CarriesSakUse := by
  have lookup :=
    frameContainsPeerEntry_buildTxFrame reachable.inv reachable.keyed.1 valid
      built
  constructor
  · intro recognised
    have found := recognised ctx.peer.mi
    rw [lookup, if_pos rfl] at found
    by_contra short
    rw [if_neg (fun both => short both.2)] at found
    exact absurd found.symm (Option.some_ne_none _)
  · intro long mi
    rw [lookup]
    simp only [long, and_true]

/-- A station that heard its first peer names it in the next frame. -/
theorem newcomer_recognised :
    ∃ ctx, Reachable BlockCipher.null ctx ∧ ctx.peer.mi = memberId 12 ∧
      ∀ mi,
        frameContainsPeerEntry
            (buildTxFrame BlockCipher.null ctx (sakOctets 2)
              maxFrameLen).2.2.1 mi =
          if mi = ctx.peer.mi then
            some (ctx.peer.mn,
              if ctx.peer.live then paramLivePeerList
              else paramPotentialPeerList)
          else
            none := by
  obtain ⟨ctx, reachable, plays⟩ :=
    @exists_final BlockCipher.null 1 10 11
      [.hear (newcomer 2 20 12) (sakOctets 1) 5] (by decide)
  obtain ⟨frame, -, built⟩ :=
    @Plays.build BlockCipher.null _ _ _ plays (sakOctets 2) (by decide)
  have named : ctx.peer.mi = memberId 12 := by
    rw [plays.same]
    decide
  have valid : ctx.peer.valid = true := by
    rw [plays.same]
    decide
  have long : 4 ≤ ctx.crypto.psk.ckn.length := by
    rw [plays.sameKeys, ckn_stations]
    decide
  exact ⟨ctx, reachable, named,
    (peer_recognised_iff reachable (sakOctets 2) maxFrameLen valid
      (congrArg Prod.fst built)).mpr (Or.inl long)⟩

/-- A participant of an association whose name has one octet hears its first
peer. -/
theorem exists_terse (aes : BlockCipher) :
    ∃ ctx, Reachable aes ctx ∧ ctx.crypto.psk.ckn.length = 1 ∧
      ctx.peer.valid = true ∧ ¬ctx.CarriesSakUse ∧
      (buildTxFrame aes ctx (sakOctets 2) maxFrameLen).1 = .ok := by
  have name :=
    @MkaCrypto.ckn_keysOf aes stationCak [2] rfl (by decide) (by decide)
  obtain ⟨ctx, reachable, plays⟩ :=
    @exists_final_of_keys aes stationCak [2] rfl (by decide) (by decide)
      (stationMac 1) 1 10 2000 (memberId 11)
      [.hear (newcomer 2 20 12) (sakOctets 1) 5] (by decide)
  obtain ⟨frame, -, built⟩ :=
    @Plays.build aes _ _ _ plays (sakOctets 2) (by decide)
  refine ⟨ctx, reachable, ?_, ?_, ?_, congrArg Prod.fst built⟩
  · rw [plays.sameKeys, name]
    rfl
  · rw [plays.same]
    decide
  · rw [plays.same]
    decide

/-- Under no cipher does the peer recognise itself in every frame. -/
theorem not_forall_peer_recognised :
    ¬∃ aes, ∀ (ctx : Ctx) (rnd : Octets 16) (frameMaxLen : Nat),
      Reachable aes ctx → ctx.peer.valid = true →
        (buildTxFrame aes ctx rnd frameMaxLen).1 = .ok →
          ∀ mi,
            frameContainsPeerEntry
                (buildTxFrame aes ctx rnd frameMaxLen).2.2.1 mi =
              if mi = ctx.peer.mi then
                some (ctx.peer.mn,
                  if ctx.peer.live then paramLivePeerList
                  else paramPotentialPeerList)
              else
                none := by
  rintro ⟨aes, alwaysRecognised⟩
  obtain ⟨ctx, reachable, terse, valid, silent, built⟩ := exists_terse aes
  have found :=
    alwaysRecognised ctx (sakOctets 2) maxFrameLen reachable valid built
    ctx.peer.mi
  rw [frameContainsPeerEntry_buildTxFrame reachable.inv reachable.keyed.1 valid
    built, if_pos rfl, if_neg] at found
  · exact absurd found.symm (Option.some_ne_none _)
  · rintro ⟨-, long | carries⟩
    · rw [terse] at long
      exact absurd long (by decide)
    · exact silent carries

end Mka

end Macsec
