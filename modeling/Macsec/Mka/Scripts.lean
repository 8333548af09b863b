import Macsec.Mka.Construction

/-!
# Scripts

A script tells what happens to one participant: it hears what another
participant builds in a given state, it builds a frame itself, or one of its
other functions is called.  A script is played on the protocol state alone, and
under every block cipher some calls of `mka.h` have the same effect.
-/

namespace Macsec

namespace Mka

/-- The effect of a call that neither receives nor builds a frame. -/
def Participant.act (ctx : Participant) : Call → Err × Participant
  | .tick nowMs => ctx.tick nowMs
  | .takeEvents => (.ok, ctx.takeEvents.2)
  | .notifyTxSuccess txMeta nowMs => ctx.notifyTxSuccess txMeta nowMs
  | .notifyTxFailure txMeta => (.ok, ctx.notifyTxFailure txMeta)
  | .takeSakForInstall =>
      (ctx.takeSakForInstall.1, ctx.takeSakForInstall.2.1)
  | .notifySakInstalled keyNumber an directions lowestPn =>
      ctx.notifySakInstalled keyNumber an directions lowestPn
  | .notifySakRetired keyNumber an => ctx.notifySakRetired keyNumber an
  | .input _ _ _ => (.ok, ctx)
  | .buildTxFrame _ _ => (.ok, ctx)

/-- Whether a call neither receives nor builds a frame. -/
def Call.isLocal : Call → Bool
  | .input _ _ _ => false
  | .buildTxFrame _ _ => false
  | _ => true

/-- One entry of a script. -/
inductive Cue
  | hear (sender : Participant) (rnd : Octets 16) (nowMs : UInt32)
  | build (rnd : Octets 16)
  | act (call : Call)

/-- What a participant hears from another one. -/
def Participant.heard (ctx : Participant) (ckn : Bytes)
    (sender : Participant) : Mkpdu :=
  sender.mkpdu ckn (Octets.zero 16) ctx.localMi

/-- A script is played on the protocol state. -/
def stage (ckn : Bytes) : Transition.Machine Participant Cue Err where
  step ctx
    | .hear sender rnd nowMs =>
        (ctx.processMkpdu (ctx.heard ckn sender) rnd nowMs).swap
    | .build rnd => (ctx.ensureForTx rnd).swap
    | .act call => (ctx.act call).swap

/-- The frame that a participant builds. -/
def frameOf (aes : BlockCipher) (crypto : MkaCrypto.Ctx)
    (sender : Participant) : Bytes :=
  match buildFrame aes crypto sender with
  | .ok frame => frame
  | .error _ => []

/-- The call that an entry of a script stands for. -/
def Cue.call (aes : BlockCipher) (crypto : MkaCrypto.Ctx) : Cue → Call
  | .hear sender rnd nowMs => .input (frameOf aes crypto sender) rnd nowMs
  | .build rnd => .buildTxFrame rnd maxFrameLen
  | .act call => call

/-- Another participant, whose frames can be told apart from one's own. -/
def Participant.Other (ctx sender : Participant) : Prop :=
  LatestShape sender.latestSak ∧ sender.localMac ≠ ctx.localMac ∧
    sender.localSci ≠ ctx.localSci ∧ sender.localMi ≠ ctx.localMi

instance (ctx sender : Participant) : Decidable (ctx.Other sender) := by
  unfold Participant.Other
  infer_instance

/-- The entries that can be played in a state. -/
def Cue.Playable (ctx : Participant) : Cue → Prop
  | .hear sender _ _ => ctx.Other sender
  | .build _ => ctx.txReasons ≠ 0 ∧ ¬ctx.ServesForeignSak
  | .act call => call.isLocal = true

instance (ctx : Participant) (cue : Cue) : Decidable (cue.Playable ctx) := by
  cases cue with
  | hear sender rnd nowMs =>
      exact inferInstanceAs (Decidable (ctx.Other sender))
  | build rnd =>
      exact inferInstanceAs (Decidable (_ ∧ _))
  | act call => exact inferInstanceAs (Decidable (call.isLocal = true))

/-- A context with given keys whose protocol state is that of the script. -/
structure Plays (crypto : MkaCrypto.Ctx) (ctx : Ctx) (state : Participant) :
    Prop where
  keyed : crypto.Keyed
  sameKeys : ctx.crypto = crypto
  verifying : ctx.verifyIcv = true
  inv : state.Inv
  same : ctx.toParticipant = state

variable {aes : BlockCipher} {crypto : MkaCrypto.Ctx} {ctx : Ctx}
  {state : Participant}

/-- What another participant builds is accepted and processed. -/
theorem Plays.hear (plays : Plays crypto ctx state) {sender : Participant}
    (other : state.Other sender) (rnd : Octets 16) (nowMs : UInt32) :
    (∃ icv,
      classify aes ctx (frameOf aes crypto sender) =
        .accepted (sender.mkpdu crypto.psk.ckn icv state.localMi)) ∧
      ((input aes ctx (frameOf aes crypto sender) rnd nowMs).1,
        (input aes ctx (frameOf aes crypto sender) rnd
          nowMs).2.toParticipant) =
        state.processMkpdu (state.heard crypto.psk.ckn sender) rnd nowMs := by
  obtain ⟨shape, otherMac, otherSci, otherMi⟩ := other
  obtain ⟨keyed, rfl, verifying, inv, rfl⟩ := plays
  obtain ⟨frame, icv, built, accepted⟩ :=
    @classify_buildFrame aes ctx sender keyed verifying shape
      (Participant.txMicLen_fits shape keyed.ckn) otherMac otherSci otherMi
  have same : frameOf aes ctx.crypto sender = frame := by
    rw [frameOf, built]
  rw [same]
  refine ⟨⟨icv, accepted⟩, ?_⟩
  rw [input_receive, accepted]
  rfl

/-- A frame that can be built is. -/
theorem Plays.build (plays : Plays crypto ctx state) {rnd : Octets 16}
    (playable : (Cue.build rnd).Playable state) :
    ∃ frame, buildFrame aes crypto (state.ensureForTx rnd).2 = .ok frame ∧
      buildTxFrame aes ctx rnd maxFrameLen =
        (.ok, { ctx with toParticipant := (state.ensureForTx rnd).2 }, frame,
          (state.ensureForTx rnd).2.txMeta) := by
  obtain ⟨due, own⟩ := playable
  obtain ⟨keyed, rfl, verifying, inv, rfl⟩ := plays
  have shape := (Participant.ensureForTx_keeps inv rnd).inv.latest
  rcases @buildTxFrame_cases aes ctx inv keyed rnd maxFrameLen with
    ⟨-, idle | foreign | tight⟩ | ⟨-, -, -, built⟩
  · exact absurd idle due
  · exact absurd foreign own
  · have fits := Participant.txMicLen_fits shape keyed.ckn
    exact absurd tight (Nat.not_lt.mpr fits)
  · exact built

/-- Every entry that can be played is matched by its call. -/
theorem Plays.perform (plays : Plays crypto ctx state) {cue : Cue}
    (playable : cue.Playable state) :
    Plays crypto (Mka.perform aes ctx (cue.call aes crypto)).1
      ((stage crypto.psk.ckn).step state cue).1 := by
  have keys := @perform_keys aes ctx (cue.call aes crypto)
  have inv : ctx.toParticipant.Inv := plays.same ▸ plays.inv
  have same :
      (Mka.perform aes ctx (cue.call aes crypto)).1.toParticipant =
        ((stage crypto.psk.ckn).step state cue).1 := by
    cases cue with
    | hear sender rnd nowMs =>
        exact congrArg Prod.snd
          (@Plays.hear aes _ _ _ plays _ playable rnd nowMs).2
    | build rnd =>
        obtain ⟨frame, -, result⟩ :=
          @Plays.build aes _ _ _ plays rnd playable
        change (buildTxFrame aes ctx rnd maxFrameLen).2.1.toParticipant = _
        rw [result]
        rfl
    | act call =>
        rw [← plays.same]
        cases call with
        | input frame rnd nowMs => exact absurd playable Bool.false_ne_true
        | buildTxFrame rnd frameMaxLen =>
            exact absurd playable Bool.false_ne_true
        | tick | takeEvents | notifyTxSuccess | notifyTxFailure
        | takeSakForInstall | notifySakInstalled | notifySakRetired => rfl
  exact ⟨plays.keyed, keys.1.trans plays.sameKeys,
    keys.2.trans plays.verifying, same ▸ perform_inv inv _, same⟩

/-- A script that can be played to its end leads to the same protocol state as
its calls. -/
theorem Plays.final (plays : Plays crypto ctx state) (cues : List Cue)
    (playable : ∀ event ∈ (stage crypto.psk.ckn).events state cues,
      event.input.Playable event.before) :
    Plays crypto
      ((machine aes).final ctx (cues.map (Cue.call aes crypto)))
      ((stage crypto.psk.ckn).final state cues) :=
  Transition.Machine.simulation
    (fun _ _ _ plays playable => plays.perform playable) plays cues playable

/-- Every initialised context can play scripts. -/
theorem plays_initialCtx (aes : BlockCipher) {cak ckn : Bytes}
    (cakSize : MkaCrypto.keyLenValid cak.length = true)
    (cknPresent : ckn.length ≠ 0) (cknFits : ckn.length ≤ MkaCrypto.cknMaxLen)
    (localMac : Octets 6) (portId : UInt16) (priority : UInt8)
    (interval : UInt32) (mi : Octets 12) :
    Plays (MkaCrypto.keysOf aes cak ckn)
      (initialCtx aes cak ckn localMac portId priority interval mi)
      (Participant.start localMac portId priority interval mi).completeInit where
  keyed :=
    (init_eq aes cakSize cknPresent cknFits localMac portId priority interval
      mi).2
  sameKeys := rfl
  verifying := rfl
  inv := (resting_completeInit localMac portId priority interval mi).inv
  same := rfl

/-- Every script that an initialised participant can play ends in the state of
some reachable context. -/
theorem exists_final_of_keys (aes : BlockCipher) {cak ckn : Bytes}
    (cakSize : MkaCrypto.keyLenValid cak.length = true)
    (cknPresent : ckn.length ≠ 0) (cknFits : ckn.length ≤ MkaCrypto.cknMaxLen)
    (localMac : Octets 6) (portId : UInt16) (priority : UInt8)
    (interval : UInt32) (mi : Octets 12) (cues : List Cue)
    (playable : ∀ event ∈
      (stage ckn).events
        (Participant.start localMac portId priority interval mi).completeInit
        cues,
      event.input.Playable event.before) :
    ∃ ctx, Reachable aes ctx ∧
      Plays (MkaCrypto.keysOf aes cak ckn) ctx
        ((stage ckn).final
          (Participant.start localMac portId priority interval mi).completeInit
          cues) := by
  have plays :=
    plays_initialCtx aes cakSize cknPresent cknFits localMac portId priority
      interval mi
  rw [← MkaCrypto.ckn_keysOf aes cakSize cknPresent cknFits] at playable
  have final := @Plays.final aes _ _ _ plays cues playable
  rw [MkaCrypto.ckn_keysOf aes cakSize cknPresent cknFits] at final
  refine ⟨_, ?_, final⟩
  exact ⟨_, _, _, _, _, _, _, _,
    (init_eq aes cakSize cknPresent cknFits localMac portId priority interval
      mi).1, _, rfl⟩

/-! ## Stations -/

/-- The connectivity association of the stations. -/
def stationCak : Bytes := List.replicate 16 1

/-- The name of that connectivity association. -/
def stationCkn : Bytes := List.replicate 16 2

/-- The address of a station. -/
def stationMac (station : UInt8) : Octets 6 :=
  ⟨List.replicate 6 station, List.length_replicate⟩

/-- The member identifier of an incarnation of a station. -/
def memberId (incarnation : UInt8) : Octets 12 :=
  ⟨List.replicate 12 incarnation, List.length_replicate⟩

/-- The octets of a SAK. -/
def sakOctets (octet : UInt8) : Octets 16 :=
  ⟨List.replicate 16 octet, List.length_replicate⟩

/-- A station that was just initialised. -/
def newcomer (station priority incarnation : UInt8) : Participant :=
  (Participant.start (stationMac station) 1 priority 2000
    (memberId incarnation)).completeInit

/-- A station that lists another one as its live peer. -/
def Participant.listing (ctx other : Participant) : Participant :=
  { ctx with
    state := .peerLive
    peer :=
      { Peer.cleared with
        valid := true
        mac := other.localMac
        sci := other.localSci
        mi := other.localMi
        mn := other.localMn
        keyServerPriority := other.keyServerPriority
        seenInPeerList := true
        live := true } }

/-- Station 2, once it recognises station 1 as a live peer. -/
def admirer : Participant := (newcomer 2 20 12).listing (newcomer 1 10 11)

/-- Station 2 as the Key Server of station 1, with a SAK to distribute. -/
def supplier : Participant :=
  ({ (newcomer 2 5 12).listing (newcomer 1 10 11) with
      localKeyServer := true }.ensureForTx (sakOctets 1)).2

/-- The Key Server of station 1 after a restart, with another SAK to distribute
under the same association number. -/
def successor : Participant :=
  ({ (newcomer 2 5 13).listing (newcomer 1 10 11) with
      localKeyServer := true }.ensureForTx (sakOctets 2)).2

/-- The same Key Server once it installed the SAK. -/
def incumbent : Participant :=
  { successor with
    latestSak :=
      { successor.latestSak with
        lifecycleState := .active
        rxInstalled := true
        txInstalled := true } }

/-- A station builds a frame with a SAK, reports its transmission and installs
the SAK in both directions. -/
def provision (number : UInt32) (an : Fin 4) (octet : UInt8) : List Cue :=
  [.build (sakOctets octet),
    .act (.notifyTxSuccess
      { TxMeta.cleared with
        messageNumber := number
        reasons := TxReason.distributeSak
        containsDistributedSak := true
        distributedKeyNumber := number
        distributedAn := an } 5),
    .act .takeSakForInstall,
    .act (.notifySakInstalled number an (installRx ||| installTx) 1)]

/-- The context of a station that was just initialised. -/
def stationCtx (aes : BlockCipher) (station priority incarnation : UInt8) :
    Ctx :=
  initialCtx aes stationCak stationCkn (stationMac station) 1 priority 2000
    (memberId incarnation)

theorem reachable_stationCtx (aes : BlockCipher)
    (station priority incarnation : UInt8) :
    Reachable aes (stationCtx aes station priority incarnation) :=
  reachable_initialCtx aes rfl (by decide) (by decide) _ _ _ _ _

theorem plays_stationCtx (aes : BlockCipher)
    (station priority incarnation : UInt8) :
    Plays (MkaCrypto.keysOf aes stationCak stationCkn)
      (stationCtx aes station priority incarnation)
      (newcomer station priority incarnation) :=
  plays_initialCtx aes rfl (by decide) (by decide) _ _ _ _ _

theorem ckn_stations (aes : BlockCipher) :
    (MkaCrypto.keysOf aes stationCak stationCkn).psk.ckn = stationCkn :=
  MkaCrypto.ckn_keysOf aes rfl (by decide) (by decide)

/-- Every script that a station can play ends in the state of some reachable
context. -/
theorem exists_final (aes : BlockCipher) {station priority incarnation : UInt8}
    (cues : List Cue)
    (playable : ∀ event ∈
      (stage stationCkn).events (newcomer station priority incarnation) cues,
        event.input.Playable event.before) :
    ∃ ctx, Reachable aes ctx ∧
      Plays (MkaCrypto.keysOf aes stationCak stationCkn) ctx
        ((stage stationCkn).final (newcomer station priority incarnation)
          cues) :=
  exists_final_of_keys aes rfl (by decide) (by decide) (stationMac station) 1
    priority 2000 (memberId incarnation) cues playable

/-- A context of a station whose protocol state is that of a script. -/
abbrev StationPlays (aes : BlockCipher) (ctx : Ctx) (state : Participant) :
    Prop :=
  Plays (MkaCrypto.keysOf aes stationCak stationCkn) ctx state

/-- The frame that a station builds in a state. -/
abbrev stationFrame (aes : BlockCipher) (sender : Participant) : Bytes :=
  frameOf aes (MkaCrypto.keysOf aes stationCak stationCkn) sender

/-- A station accepts and processes what another one builds. -/
theorem StationPlays.hear (plays : StationPlays aes ctx state)
    {sender : Participant} (other : state.Other sender) (rnd : Octets 16)
    (nowMs : UInt32) :
    (∃ icv,
      classify aes ctx (stationFrame aes sender) =
        .accepted (sender.mkpdu stationCkn icv state.localMi)) ∧
      (input aes ctx (stationFrame aes sender) rnd nowMs).1 =
        (state.processMkpdu (state.heard stationCkn sender) rnd nowMs).1 ∧
      StationPlays aes (input aes ctx (stationFrame aes sender) rnd nowMs).2
        (state.processMkpdu (state.heard stationCkn sender) rnd nowMs).2 := by
  obtain ⟨accepted, result⟩ := @Plays.hear aes _ _ _ plays _ other rnd nowMs
  have played :=
    @Plays.perform aes _ _ _ plays (.hear sender rnd nowMs) other
  rw [ckn_stations] at accepted result played
  exact ⟨accepted, congrArg Prod.fst result, played⟩

/-- A station plays a script to its end. -/
theorem StationPlays.stationFinal (plays : StationPlays aes ctx state)
    (cues : List Cue)
    (playable : ∀ event ∈ (stage stationCkn).events state cues,
      event.input.Playable event.before) :
    StationPlays aes
      ((machine aes).final ctx
        (cues.map (Cue.call aes (MkaCrypto.keysOf aes stationCak stationCkn))))
      ((stage stationCkn).final state cues) := by
  rw [← ckn_stations aes] at playable
  have played := @Plays.final aes _ _ _ plays cues playable
  rw [ckn_stations] at played
  exact played

/-- A station builds the frame that is due. -/
theorem StationPlays.build (plays : StationPlays aes ctx state)
    {rnd : Octets 16} (playable : (Cue.build rnd).Playable state) :
    ∃ frame after,
      buildTxFrame aes ctx rnd maxFrameLen =
        (.ok, after, frame, (state.ensureForTx rnd).2.txMeta) ∧
      StationPlays aes after (state.ensureForTx rnd).2 := by
  obtain ⟨frame, -, result⟩ := @Plays.build aes _ _ _ plays rnd playable
  have played := @Plays.perform aes _ _ _ plays (.build rnd) playable
  refine ⟨frame, _, result, ?_⟩
  rw [show (perform aes ctx (Cue.call aes _ (.build rnd))).1 = _ from
    congrArg (fun built => built.2.1) result] at played
  exact played

end Mka

end Macsec
