import Macsec.Api.Identities
import Macsec.System.Uniqueness

/-!
# Where SAKs come from

Stations with one pre-shared key exchange MKPDUs over a network that may lose,
delay, reorder and duplicate them but cannot forge what authenticates.  Every
SAK that a station holds was made by one of the stations, from octets that were
drawn there and with the key number and the association number it has
everywhere.  If no octets are drawn twice, a key belongs to one key number and
one association number in the whole group.
-/

namespace Macsec

namespace System

variable {ι : Type} [DecidableEq ι] {aes : BlockCipher} {start : ι → Ctx}
  {cak ckn : Bytes}

/-- The stations were initialised with one pre-shared key. -/
def Grouped (aes : BlockCipher) (cak ckn : Bytes) (start : ι → Ctx) : Prop :=
  ∀ party, ∃ cfg mi, cfg.mode = .mkaPsk ∧ cfg.cak = cak ∧ cfg.ckn = ckn ∧
    init aes cfg mi = (.ok, start party)

/-- An MKPDU that authenticates was built by one of the stations. -/
def Authentic (aes : BlockCipher) (past : List (Event ι)) (event : Event ι) :
    Prop :=
  ∀ receiver frame plain rnd pdu,
    event.input = (receiver, .input frame plain rnd) →
    Mka.classify aes (event.before receiver).mka frame = .accepted pdu →
      ∃ earlier ∈ past, ∃ sender, Builds earlier sender frame

/-- A station makes a SAK from the octets that are drawn in the step. -/
def Makes (event : Event ι) (identity : Mka.Identity) : Prop :=
  ∃ rnd, drawn event.input.2 = some rnd ∧
    ((event.before event.input.1).mka.pendingSak rnd).identity = identity ∧
    (event.after event.input.1).mka.slots.Lists identity

/-- A station made the SAK before. -/
def Made (past : List (Event ι)) (identity : Mka.Identity) : Prop :=
  ∃ event ∈ past, Makes event identity

/-- The SAKs of the stations and those in the MKPDUs were made before. -/
structure Traced (aes : BlockCipher) (crypto : MkaCrypto.Ctx)
    (past : List (Event ι)) (parties : ι → Ctx) : Prop where
  reachable : ∀ party, Reachable aes .mkaPsk (parties party)
  keys : ∀ party, (parties party).mka.crypto = crypto
  held : ∀ party, (parties party).mka.slots.All (Made past)
  sent : ∀ event ∈ past, ∀ sender frame found, Builds event sender frame →
    Mka.scanDistributedSak aes crypto frame = .ok found →
      Made past found.identity

variable {past : List (Event ι)} {event : Event ι} {crypto : MkaCrypto.Ctx}
  {parties : ι → Ctx} {party : ι} {call : Call}

omit [DecidableEq ι] in
theorem Made.concat {identity : Mka.Identity} (made : Made past identity) :
    Made (past ++ [event]) identity := by
  obtain ⟨earlier, member, makes⟩ := made
  exact ⟨earlier, List.mem_append_left _ member, makes⟩

/-- An authenticated MKPDU distributes what the scan of its octets finds. -/
theorem scan_of_accepted {ctx : Mka.Ctx} {frame : Bytes} {pdu : Mka.Mkpdu}
    (accepted : Mka.classify aes ctx frame = .accepted pdu) :
    pdu.distributedSak = Mka.scanDistributedSak aes ctx.crypto frame := by
  unfold Mka.classify at accepted
  split at accepted
  next => cases accepted
  next =>
      split at accepted
      next => cases accepted
      next =>
          split at accepted
          next => cases accepted
          next =>
              split at accepted
              next =>
                  cases accepted
                  rfl
              next => cases accepted

/-- A SAK that a station holds after its step was made before or in the step. -/
theorem Traced.made (traced : Traced aes crypto past parties)
    (authentic :
      Authentic aes past ((machine aes).event parties (party, call)))
    {identity : Mka.Identity}
    (lists :
      (perform aes (parties party) call).1.mka.slots.Lists identity) :
    Made (past ++ [(machine aes).event parties (party, call)]) identity := by
  have resting := (traced.reachable party).resting
  have after : ((machine aes).event parties (party, call)).after party =
      (perform aes (parties party) call).1 := Function.update_self ..
  have makes {rnd : Octets 16} (draws : drawn call = some rnd)
      (made : ((parties party).mka.pendingSak rnd).identity = identity) :
      Made (past ++ [(machine aes).event parties (party, call)]) identity :=
    ⟨_, List.mem_append_right _ List.mem_cons_self, rnd, draws, made,
      after ▸ lists⟩
  rcases lists_of_step resting (perform_step resting call) lists with
    before | supplies
  · exact ((traced.held party).of_lists before).concat
  · cases call with
    | input frame plain rnd =>
        rcases supplies with
          ⟨pdu, found, accepted, distributes, rfl⟩ | ⟨-, made⟩
        · obtain ⟨earlier, member, sender, builds⟩ :=
            authentic party frame plain rnd pdu rfl accepted
          rw [scan_of_accepted accepted, traced.keys] at distributes
          exact (traced.sent earlier member sender frame found builds
            distributes).concat
        · exact makes rfl made
    | buildControlFrame txMaxLen rnd => exact makes rfl supplies
    | output | tick | notifyControlTxSuccess | notifyControlTxFailure =>
        exact supplies.elim

/-- What was made stays made, step by step. -/
theorem Traced.step (traced : Traced aes crypto past parties)
    (authentic :
      Authentic aes past ((machine aes).event parties (party, call))) :
    Traced aes crypto (past ++ [(machine aes).event parties (party, call)])
      ((machine aes).step parties (party, call)).1 := by
  have reachable := traced.reachable party
  have resting := reachable.resting
  have made {identity : Mka.Identity}
      (lists :
        (perform aes (parties party) call).1.mka.slots.Lists identity) :
      Made (past ++ [(machine aes).event parties (party, call)]) identity :=
    traced.made authentic lists
  have keys := @perform_keys aes (parties party)
    (notDisabled_of_resting resting) call
  refine ⟨?_, ?_, ?_, ?_⟩
  · exact forall_step (fun _ ctx => Reachable aes .mkaPsk ctx)
      traced.reachable (reachable.final [call])
  · exact forall_step (fun _ ctx => ctx.mka.crypto = crypto) traced.keys
      (keys.1.trans (traced.keys party))
  · refine forall_step
      (fun _ ctx => ctx.mka.slots.All (Made (past ++ [_])))
      (fun other => ?_) ?_
    · exact ⟨fun present => ((traced.held other).latest present).concat,
        fun present => ((traced.held other).old present).concat⟩
    · exact ⟨fun present => made (Or.inl ⟨present, rfl⟩),
        fun present => made (Or.inr ⟨present, rfl⟩)⟩
  · intro event member sender frame found builds scan
    rcases List.mem_append.mp member with earlier | last
    · exact (traced.sent event earlier sender frame found builds scan).concat
    · rw [List.mem_singleton] at last
      subst last
      obtain ⟨txMaxLen, rnd, same, ok, rfl⟩ := builds
      change (party, call) = _ at same
      cases same
      apply made
      apply lists_of_built resting reachable.keyed.1 ok
      rw [traced.keys]
      exact scan

/-- Along a run of stations with one pre-shared key all SAKs are traced. -/
theorem traced_of_run (grouped : Grouped aes cak ckn start)
    (inputs : List (ι × Call))
    (authentic :
      Transition.Guarded (Authentic aes)
        ((machine aes).events start inputs)) :
    Transition.Guarded
        (fun past event => ∀ party,
          (event.after party).mka.slots.All (Made (past ++ [event])))
        ((machine aes).events start inputs) ∧
      Traced aes (MkaCrypto.keysOf aes cak ckn)
        ((machine aes).events start inputs)
        ((machine aes).final start inputs) := by
  have initial : Traced aes (MkaCrypto.keysOf aes cak ckn) [] start := by
    refine ⟨fun party => ?_, fun party => ?_, fun party => ?_,
      fun _ member => absurd member List.not_mem_nil⟩
    · obtain ⟨cfg, mi, mode, -, -, result⟩ := grouped party
      exact ⟨cfg, mi, _, mode, result, Transition.Machine.Reachable.refl _ _⟩
    · obtain ⟨cfg, mi, mode, rfl, rfl, result⟩ := grouped party
      rw [(init_mkaPsk mode result).1]
      rfl
    · obtain ⟨cfg, mi, mode, -, -, result⟩ := grouped party
      have slots : (start party).mka.slots = ⟨.cleared, .cleared⟩ := by
        rw [(init_mkaPsk mode result).1]
        change (Mka.Participant.start _ _ _ _ mi).completeInit.slots = _
        rw [Mka.completeInit_eq]
        rfl
      rw [slots]
      exact ⟨fun present => absurd rfl present,
        fun present => absurd rfl present⟩
  constructor
  · exact Transition.Machine.guarded_events initial
      (fun past parties input traced guard => traced.step guard)
      (fun past parties input traced guard => (traced.step guard).held)
      inputs authentic
  · exact Transition.Machine.historyInvariant initial
      (fun past parties input traced guard => traced.step guard) inputs
      authentic

/-- Every SAK in a slot or an association of a station was made by one of the
stations before. -/
theorem held_saks_were_made (grouped : Grouped aes cak ckn start)
    (inputs : List (ι × Call))
    (authentic :
      Transition.Guarded (Authentic aes)
        ((machine aes).events start inputs))
    (party : ι) :
    let ctx := (machine aes).final start inputs party
    let made := Made ((machine aes).events start inputs)
    ctx.mka.slots.All made ∧
      (∀ an, (ctx.frameCrypto.rxSak an).valid = true →
        ∃ keyNumber, made ((ctx.frameCrypto.rxSak an).key, keyNumber, an)) ∧
      (ctx.frameCrypto.txSak.valid = true →
        ∃ keyNumber, made
          (ctx.frameCrypto.txSak.key, keyNumber, ctx.frameCrypto.txSak.an)) := by
  intro ctx made
  obtain ⟨-, traced⟩ := traced_of_run grouped inputs authentic
  have reachable : Reachable aes .mkaPsk ctx := traced.reachable party
  have all : ctx.mka.slots.All made := traced.held party
  have of_carries {direction : Mka.Direction} {key : Bytes} {an : Fin 4}
      (carries : ctx.mka.slots.Carries direction key an) :
      ∃ keyNumber, made (key, keyNumber, an) := by
    obtain ⟨keyNumber, lists⟩ :=
      (carries.holds reachable.resting.mka.inv.slots).lists
    exact ⟨keyNumber, all.of_lists lists⟩
  exact ⟨all, fun an valid => of_carries (reachable.backed.rx an valid).2,
    fun valid => of_carries (reachable.backed.tx valid)⟩

omit [DecidableEq ι] in
/-- Where nothing is forged, what authenticates was built by a station. -/
theorem authentic_of_faithful {events : List (Event ι)}
    (faithful : Transition.Guarded (Faithful aes) events) :
    Transition.Guarded (Authentic aes) events := by
  intro past event rest split receiver frame plain rnd pdu same accepted
  obtain ⟨earlier, member, sender, builds, -⟩ :=
    (faithful past event rest split).1 receiver frame plain rnd same
      (Mka.isEapolMka_of_accepted accepted)
  exact ⟨earlier, member, sender, builds⟩

theorem grouped_stations (aes : BlockCipher) :
    Grouped aes Mka.stationCak Mka.stationCkn (stations aes) := by
  intro side
  cases side with
  | a => exact ⟨_, _, rfl, rfl, rfl, init_stationCtx aes 1 10 11⟩
  | b => exact ⟨_, _, rfl, rfl, rfl, init_stationCtx aes 2 5 12⟩

theorem playable_agreement :
    ∀ event ∈ (stage Mka.stationCkn).events opening agreement,
      event.before.Playable event.input := by
  decide +kernel

/-- The SAK on which the stations agree. -/
theorem lists_agreement (side : Side) :
    (((stage Mka.stationCkn).final opening agreement).parties
      side).mka.slots.Lists ((Mka.sakOctets 1).1, 1, 0) := by
  cases side with
  | a => exact Or.inl (by decide +kernel)
  | b => exact Or.inl (by decide +kernel)

/-- Two stations agree on a SAK, and what they hold was made by one of them. -/
theorem station_saks_were_made :
    ∃ inputs : List (Side × Call), ∀ side,
      let ctx :=
        (machine BlockCipher.null).final (stations BlockCipher.null) inputs
          side
      ctx.mka.slots.Lists ((Mka.sakOctets 1).1, 1, 0) ∧
        ctx.mka.slots.All
          (Made ((machine BlockCipher.null).events
            (stations BlockCipher.null) inputs)) := by
  obtain ⟨inputs, -, same, faithful, -⟩ :=
    stages_stations BlockCipher.null playable_agreement
  refine ⟨inputs, fun side => ⟨?_, ?_⟩⟩
  · change ((machine _).final _ inputs side).control.mka.slots.Lists _
    rw [same]
    exact lists_agreement side
  · exact (held_saks_were_made (grouped_stations BlockCipher.null) inputs
      (authentic_of_faithful faithful) side).1

omit [DecidableEq ι] in
/-- A station makes one SAK at most in a step. -/
theorem Makes.identity_unique {identity other : Mka.Identity}
    (makes : Makes event identity) (again : Makes event other) :
    identity = other := by
  obtain ⟨rnd, draws, rfl, -⟩ := makes
  obtain ⟨drawnAgain, redraws, rfl, -⟩ := again
  cases draws.symm.trans redraws
  rfl

/-- If no octets are drawn twice, SAKs with the same key are the same. -/
theorem Made.identity_unique {inputs : List (ι × Call)}
    (fresh : (inputs.filterMap (drawn ·.2)).Nodup)
    {identity other : Mka.Identity}
    (made : Made ((machine aes).events start inputs) identity)
    (again : Made ((machine aes).events start inputs) other)
    (sameKey : identity.1 = other.1) : identity = other := by
  obtain ⟨first, inFirst, makes⟩ := made
  obtain ⟨second, inSecond, remakes⟩ := again
  obtain ⟨rnd, draws, made, -⟩ := id makes
  obtain ⟨redrawn, redraws, remade, -⟩ := id remakes
  have same : rnd = redrawn := by
    apply Subtype.ext
    rw [← made, ← remade] at sameKey
    exact sameKey
  have distinct :
      (((machine aes).events start inputs).filterMap
        fun event => drawn event.input.2).Nodup := by
    rw [← (machine aes).map_input_events start inputs, List.filterMap_map]
      at fresh
    exact fresh
  cases Transition.eq_of_nodup_filterMap distinct inFirst inSecond draws
    (same ▸ redraws)
  exact makes.identity_unique remakes

/-- What a station holds after a step of a run was made in the run. -/
theorem made_of_run (grouped : Grouped aes cak ckn start)
    (inputs : List (ι × Call))
    (authentic :
      Transition.Guarded (Authentic aes)
        ((machine aes).events start inputs)) :
    ∀ event ∈ (machine aes).events start inputs, ∀ party identity,
      (event.after party).mka.slots.Lists identity →
        Made ((machine aes).events start inputs) identity := by
  intro event member party identity lists
  obtain ⟨past, rest, split⟩ := List.append_of_mem member
  obtain ⟨earlier, inPast, makes⟩ :=
    ((traced_of_run grouped inputs authentic).1 past event rest split
      party).of_lists lists
  refine ⟨earlier, ?_, makes⟩
  rw [split, ← List.singleton_append, ← List.append_assoc]
  exact List.mem_append_left rest inPast

/-- If no octets are drawn twice, no two stations ever give one key different
key numbers or association numbers. -/
theorem keys_have_one_identity (grouped : Grouped aes cak ckn start)
    (inputs : List (ι × Call))
    (authentic :
      Transition.Guarded (Authentic aes)
        ((machine aes).events start inputs))
    (fresh : (inputs.filterMap (drawn ·.2)).Nodup) :
    ∀ first ∈ (machine aes).events start inputs,
      ∀ second ∈ (machine aes).events start inputs,
        ∀ one two identity other,
          (first.after one).mka.slots.Lists identity →
          (second.after two).mka.slots.Lists other →
            identity.1 = other.1 → identity = other := by
  have made := made_of_run grouped inputs authentic
  intro first inFirst second inSecond one two identity other lists relists
  exact (made first inFirst one identity lists).identity_unique fresh
    (made second inSecond two other relists)

/-- Whatever SAKs two stations hold on the way to their agreement, one key has
one key number and one association number. -/
theorem station_keys_have_one_identity :
    ∃ inputs : List (Side × Call),
      let events :=
        (machine BlockCipher.null).events (stations BlockCipher.null) inputs
      ∀ first ∈ events, ∀ second ∈ events, ∀ one two identity other,
        (first.after one).mka.slots.Lists identity →
        (second.after two).mka.slots.Lists other →
          identity.1 = other.1 → identity = other := by
  obtain ⟨inputs, draws, -, faithful, -⟩ :=
    stages_stations BlockCipher.null playable_agreement
  exact ⟨inputs, keys_have_one_identity (grouped_stations BlockCipher.null)
    inputs (authentic_of_faithful faithful) (by rw [draws]; decide)⟩

end System

end Macsec
