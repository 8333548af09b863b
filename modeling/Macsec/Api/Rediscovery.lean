import Macsec.Api.Liveness

/-!
# A peer that comes back

A peer that timed out may come back under the SAK that is still installed.  No
SAK is installed then, so nothing tells the context that traffic may resume.
For the same reason the participant is not operational again: every MKPDU that
lists it makes the peer live, and only an installation makes it operational.
-/

namespace Macsec

namespace Mka

namespace Participant

variable {ctx : Participant} {pdu : Mkpdu}

/-! ## The latest SAK and the peer after an MKPDU -/

/-- The latest SAK is in use. -/
def InUse (ctx : Participant) : Prop :=
  ctx.latestSak.lifecycleState = .active ∨
    ctx.latestSak.lifecycleState = .confirmed

/-- The latest SAK is in use with a live peer. -/
def Connected (ctx : Participant) : Prop :=
  (ctx.peer.valid = true ∧ ctx.peer.live = true) ∧ ctx.InUse

/-- A SAK in use is not due. -/
theorem InUse.notDue (used : ctx.InUse) :
    ¬sakAvailable ctx.latestSak = true := by
  intro available
  have due := lifecycle_of_available available
  rcases used with lifecycle | lifecycle
  · rw [lifecycle] at due
    simp at due
  · rw [lifecycle] at due
    simp at due

/-- A report neither puts a SAK in use nor takes it out of use, and leaves one
that waits alone. -/
theorem reportedLifecycle_inUse (lifecycle : SakState) (both : Bool) :
    (reportedLifecycle lifecycle both = .active ∨
        reportedLifecycle lifecycle both = .confirmed ↔
      lifecycle = .active ∨ lifecycle = .confirmed) ∧
    (reportedLifecycle lifecycle both = .candidate ↔
      lifecycle = .candidate) := by
  unfold reportedLifecycle
  cases lifecycle with
  | none | candidate | distributionPending | distributed | installPending
  | active | confirmed | retiring =>
      cases both with
      | true | false => simp

/-- A latest SAK that stays is in use as before. -/
theorem processMkpdu_kept (inv : ctx.Inv) (kept : ¬ctx.Displaces pdu)
    (rnd : Octets 16) (nowMs : UInt32) :
    let after := (ctx.processMkpdu pdu rnd nowMs).2
    (after.InUse ↔ ctx.InUse) ∧
      (after.latestSak.lifecycleState = .candidate ↔
        ctx.latestSak.lifecycleState = .candidate) := by
  dsimp only
  rcases ctx.processMkpdu_slots inv pdu rnd nowMs with
    ⟨-, ⟨slots, -⟩ | ⟨report, -, -, slots⟩⟩ | ⟨displaces, -⟩
  · have latest :
        (ctx.processMkpdu pdu rnd nowMs).2.latestSak = ctx.latestSak :=
      congrArg Slots.latest slots
    unfold InUse
    rw [latest]
    exact ⟨Iff.rfl, Iff.rfl⟩
  · have latest : (ctx.processMkpdu pdu rnd nowMs).2.latestSak =
        reportedSak ctx.latestSak report := congrArg Slots.latest slots
    unfold InUse
    rw [latest]
    exact reportedLifecycle_inUse _ _
  · exact absurd displaces kept

/-- A SAK that enters the latest slot is not in use yet. -/
theorem processMkpdu_displaced (inv : ctx.Inv) (displaces : ctx.Displaces pdu)
    (rnd : Octets 16) (nowMs : UInt32) :
    ¬(ctx.processMkpdu pdu rnd nowMs).2.InUse := by
  rcases ctx.processMkpdu_slots inv pdu rnd nowMs with
    ⟨kept, -⟩ | ⟨-, sak, enters, slots⟩
  · exact absurd displaces kept
  · have latest : (ctx.processMkpdu pdu rnd nowMs).2.latestSak = sak :=
      congrArg Slots.latest slots
    unfold InUse
    rw [latest]
    rintro (active | confirmed)
    · cases enters with
      | adopted | generated | dropped => exact SakState.noConfusion active
    · cases enters with
      | adopted | generated | dropped => exact SakState.noConfusion confirmed

/-- The peer is live after an MKPDU that lists the participant, and stays live
with any other MKPDU of the same sender. -/
theorem metPeer_live {nowMs : UInt32} :
    (ctx.metPeer pdu.basic pdu.localSeen nowMs).live = true ↔
      pdu.localSeen = true ∨
        (pdu.localSeen = false ∧
          ctx.peerIdentityChanged pdu.basic = false ∧
          ctx.peer.live = true) := by
  unfold metPeer
  cases pdu.localSeen with
  | true => simp
  | false => simp

end Participant

end Mka

/-- Servicing connects a live peer if a SAK is due or in use. -/
theorem Control.connected_serviced {ctx : Control} :
    ctx.serviced.mka.Connected ↔
      (ctx.mka.peer.valid = true ∧ ctx.mka.peer.live = true) ∧
        (Mka.Participant.sakAvailable ctx.mka.latestSak = true ∨
          ctx.mka.InUse) := by
  unfold Mka.Participant.Connected Mka.Participant.InUse
  rw [serviced_peer.1, serviced_latest]
  split
  next available =>
      exact and_congr_right fun _ =>
        iff_of_true (Or.inl rfl) (Or.inl available)
  next notDue => simp [notDue]

variable {aes : BlockCipher} {ctx : Ctx}

/-! ## Secured with a live peer -/

/-- A context with a live peer and a SAK in use is secured. -/
def Control.Resumed (ctx : Control) : Prop :=
  ctx.mka.Connected → ctx.state = .secured

/-- An MKPDU brings the peer of a context that is not secured to life, and the
SAK that is in use stays. -/
def Call.Revives (aes : BlockCipher) (ctx : Ctx) : Call → Prop
  | .input frame _ _ =>
      ∃ pdu, Mka.classify aes ctx.mka frame = .accepted pdu ∧
        pdu.localSeen = true ∧ ¬ctx.mka.Displaces pdu ∧ ctx.mka.InUse ∧
        ctx.state ≠ .secured
  | _ => False

/-- Servicing resumes the traffic unless the call revives the peer. -/
theorem resumed_serviced_iff {call : Call} {before : Control}
    (resting : ctx.control.Resting) (resumed : ctx.control.Resumed)
    (prompts : Prompts aes ctx call before)
    (serviceable : before.mka.Serviceable) :
    before.serviced.Resumed ↔ ¬call.Revives aes ctx := by
  have inv := resting.mka.inv
  have unchanged (peer : before.mka.peer = ctx.mka.peer)
      (latest : before.mka.latestSak = ctx.mka.latestSak)
      (kept : ¬call.Loses ctx.control) :
      (before.mka.peer.valid = true ∧ before.mka.peer.live = true) ∧
          (Mka.Participant.sakAvailable before.mka.latestSak = true ∨
            before.mka.InUse) →
        Mka.Participant.sakAvailable before.mka.latestSak = true ∨
          (ctx.state = .secured ∧ ¬call.Loses ctx.control) := by
    rintro ⟨live, available | used⟩
    · exact Or.inl available
    · rw [peer] at live
      unfold Mka.Participant.InUse at used
      rw [latest] at used
      exact Or.inr ⟨resumed ⟨live, used⟩, kept⟩
  unfold Control.Resumed
  rw [secured_of_prompts resting prompts, Control.connected_serviced]
  cases prompts with
  | own isMka own =>
      refine iff_of_true
        (unchanged rfl rfl fun ⟨_, same, _⟩ => Call.noConfusion same) ?_
      rintro ⟨pdu, accepted, -⟩
      exact Mka.Received.noConfusion (own.symm.trans accepted)
  | @heard frame plain rnd pdu isMka accepted processed =>
      have takes :=
        ((Mka.Participant.processMkpdu_ok_iff inv pdu rnd _).mp processed).1
      obtain ⟨peer, -⟩ :=
        Mka.Participant.processMkpdu_follows inv takes rnd ctx.lastTickMs
      have living := @Mka.Participant.metPeer_live ctx.control.mka pdu
        ctx.lastTickMs
      rw [← peer] at living
      by_cases displaces : ctx.control.mka.Displaces pdu
      · have unused :=
          Mka.Participant.processMkpdu_displaced inv displaces rnd
            ctx.lastTickMs
        refine iff_of_true ?_ ?_
        · rintro ⟨-, available | used⟩
          · exact Or.inl available
          · exact absurd used unused
        · rintro ⟨other, same, -, kept, -⟩
          rw [accepted] at same
          cases same
          exact kept displaces
      · have kept :=
          (Mka.Participant.processMkpdu_kept inv displaces rnd
            ctx.lastTickMs).1
        constructor
        · rintro secured ⟨other, same, listed, -, used, waits⟩
          rw [accepted] at same
          cases same
          have inUse := kept.mpr used
          have live := living.mpr (Or.inl listed)
          have valid := congrArg Mka.Peer.valid peer
          rcases secured ⟨⟨valid, live⟩, Or.inr inUse⟩ with
            available | ⟨before, -⟩
          · exact inUse.notDue available
          · exact waits before
        · intro quiet
          rintro ⟨⟨-, live⟩, available | used⟩
          · exact Or.inl available
          · refine Or.inr ⟨?_, fun ⟨_, same, _⟩ => Call.noConfusion same⟩
            rcases living.mp live with listed | ⟨-, known, lived⟩
            · by_contra waits
              exact quiet ⟨pdu, accepted, listed, displaces, kept.mp used,
                waits⟩
            · have valid :=
                (Mka.not_peerIdentityChanged_iff.mp known).1
              exact resumed ⟨⟨valid, lived⟩, kept.mp used⟩
  | ticked nowMs =>
      obtain ⟨latest, stays, expires⟩ :=
        Mka.Participant.tick_follows inv nowMs
      refine iff_of_true ?_ id
      by_cases silent : ctx.control.mka.Expires nowMs
      · rintro ⟨⟨valid, -⟩, -⟩
        have gone := congrArg Mka.Peer.valid (expires silent).1
        exact Bool.noConfusion (gone.symm.trans valid)
      · refine unchanged (stays silent).1 latest ?_
        rintro ⟨later, same, lost⟩
        cases same
        exact silent lost
  | @reported nowMs pending accepted =>
      obtain ⟨peer, -, first, later⟩ :=
        Mka.Participant.notifyTxSuccess_follows accepted
      refine iff_of_true ?_ id
      by_cases distributing :
          ctx.control.mka.Distributing ctx.pendingMkaTxMeta
      · exact fun _ => Or.inl
          ((Mka.Participant.sakAvailable_iff serviceable).mpr
            (Or.inr (first distributing)))
      · exact unchanged peer (later distributing)
          fun ⟨_, same, _⟩ => Call.noConfusion same

/-- A call that hears an MKPDU does not wait for anything. -/
theorem ne_notReady_of_accepted (resting : ctx.control.Resting)
    {frame : Bytes} {pdu : Mka.Mkpdu}
    (accepted : Mka.classify aes ctx.mka frame = .accepted pdu)
    (plain : Bytes) (rnd : Octets 16) :
    (perform aes ctx (.input frame plain rnd)).2.ret ≠ .notReady := by
  have received := (input_of_accepted resting accepted plain rnd).2
  change (input aes ctx frame plain rnd).2.ret ≠ .notReady
  rw [received]
  have outcome :=
    Control.receiveMka_cases resting (.accepted pdu)
      (fun same => Mka.Received.noConfusion same) rnd
  dsimp only at outcome
  rcases outcome with ⟨-, -, result⟩ | ⟨-, -, result⟩
  · rw [result]
    exact Mka.Participant.processMkpdu_ne_notReady resting.mka.inv pdu rnd _
  · rw [result]
    exact Err.noConfusion

/-- The latest SAK that is generated for a frame is not in use. -/
theorem Mka.Participant.ensureForTx_inUse {ctx : Mka.Participant}
    {rnd : Octets 16} (used : (ctx.ensureForTx rnd).2.InUse) :
    (ctx.ensureForTx rnd).2 = ctx := by
  rcases ctx.ensureForTx_cases rnd with same | ⟨-, -, -, result⟩
  · exact same
  · rw [result] at used
    rcases used with active | confirmed
    · exact Mka.SakState.noConfusion active
    · exact Mka.SakState.noConfusion confirmed

/-- Every successful step resumes the traffic unless it revives the peer. -/
theorem resumed_perform_iff (resting : ctx.control.Resting)
    (resumed : ctx.control.Resumed) {call : Call}
    (succeeded : (perform aes ctx call).2.ret = .ok ∨
      (perform aes ctx call).2.ret = .notReady) :
    (perform aes ctx call).1.control.Resumed ↔ ¬call.Revives aes ctx := by
  have step := @perform_step aes ctx resting call
  have served (revives : call.Revives aes ctx) :
      (perform aes ctx call).2.ret = .ok ∧ call.Serves := by
    cases call with
    | input frame plain rnd =>
        obtain ⟨pdu, accepted, -⟩ := revives
        refine ⟨succeeded.resolve_right ?_,
          Mka.isEapolMka_of_accepted accepted⟩
        exact ne_notReady_of_accepted resting accepted plain rnd
    | output | tick | buildControlFrame | notifyControlTxSuccess
    | notifyControlTxFailure => exact revives.elim
  generalize (perform aes ctx call).2.ret = ret at step succeeded served
  generalize (perform aes ctx call).1.control = after at step
  cases step with
  | passive silent same =>
      refine iff_of_true resumed fun revives => ?_
      exact silent (served revives).1 (served revives).2
  | @built txMaxLen rnd ret mka txMeta pending generated =>
      refine iff_of_true ?_ id
      rcases generated with rfl | rfl
      · exact resumed
      · rintro ⟨live, used⟩
        have same := Mka.Participant.ensureForTx_inUse used
        change (ctx.mka.toParticipant.ensureForTx rnd).2.peer.valid = true ∧
          (ctx.mka.toParticipant.ensureForTx rnd).2.peer.live = true at live
        rw [same] at live used
        exact resumed ⟨live, used⟩
  | returned => exact iff_of_true resumed id
  | refused failed => exact absurd succeeded (not_or.mpr failed)
  | failed isMka accepted failed => exact absurd succeeded (not_or.mpr failed)
  | serviced serves prompts serviceable =>
      exact resumed_serviced_iff resting resumed prompts serviceable

/-- In a run without a failure, a context that serviced a live peer under a SAK
in use is secured, precisely if no MKPDU revives the peer of a context that is
not secured. -/
theorem connected_secured_iff {cfg : Config} {mi : Octets 12}
    (mode : cfg.mode = .mkaPsk)
    (initialised : init aes cfg mi = (.ok, ctx)) (calls : List Call)
    (succeeded : ∀ event ∈ (machine aes).events ctx calls,
      event.output.ret = .ok ∨ event.output.ret = .notReady) :
    (∀ event ∈ (machine aes).events ctx calls, event.input.Serves →
        event.after.mka.peer.valid = true ∧
          event.after.mka.peer.live = true →
        event.after.mka.latestSak.lifecycleState = .active ∨
          event.after.mka.latestSak.lifecycleState = .confirmed →
        event.after.state = .secured) ↔
      ∀ event ∈ (machine aes).events ctx calls,
        ¬event.input.Revives aes event.before := by
  obtain ⟨resting, -, absent, -⟩ := init_waits mode initialised
  have resumed :=
    @Transition.Machine.good_iff_guarded _ _ _ (machine aes)
      (fun ctx => ctx.control.Resting) (fun ctx => ctx.control.Resumed)
      (fun event => event.output.ret = .ok ∨ event.output.ret = .notReady)
      (fun event => event.input.Serves)
      (fun event => ¬event.input.Revives aes event.before)
      (fun event passive revives => ?_)
      (fun ctx call resting _ => perform_resting resting call)
      (fun ctx call resting resumed succeeded =>
        resumed_perform_iff resting resumed succeeded)
      ctx resting ?_ calls succeeded
  · rw [← resumed]
    refine forall₂_congr fun event _ => forall_congr' fun _ => ?_
    exact ⟨fun secured connected => secured connected.1 connected.2,
      fun secured live used => secured ⟨live, used⟩⟩
  · cases input : event.input with
    | input frame plain rnd =>
        rw [input] at revives passive
        obtain ⟨pdu, accepted, -⟩ := revives
        exact passive (Mka.isEapolMka_of_accepted accepted)
    | output | tick | buildControlFrame | notifyControlTxSuccess
    | notifyControlTxFailure =>
        rw [input] at revives
        exact revives
  · rintro ⟨-, active | confirmed⟩
    · exact Mka.SakState.noConfusion (absent.symm.trans active)
    · exact Mka.SakState.noConfusion (absent.symm.trans confirmed)

/-- A station with a live Key Server and a SAK in use is secured. -/
theorem supplied_resumed :
    (perform BlockCipher.null (stationCtx BlockCipher.null 1 10 11)
      (hearSupplier BlockCipher.null)).1.state = .secured := by
  obtain ⟨after, ret⟩ := perform_hearSupplier BlockCipher.null
  have connected :
      (perform BlockCipher.null (stationCtx BlockCipher.null 1 10 11)
        (hearSupplier BlockCipher.null)).1.control.mka.Connected := by
    rw [after]
    unfold Mka.Participant.Connected Mka.Participant.InUse
    decide
  have serves : (hearSupplier BlockCipher.null).Serves :=
    isEapolMka_hearSupplier BlockCipher.null
  refine (connected_secured_iff rfl (init_stationCtx BlockCipher.null 1 10 11)
    [hearSupplier BlockCipher.null] ?_).mpr ?_ _ List.mem_cons_self serves
    connected.1 connected.2
  · intro event member
    rw [List.mem_singleton.mp member]
    exact Or.inl ret
  · rintro event member revives
    rw [List.mem_singleton.mp member] at revives
    obtain ⟨pdu, -, -, -, active | confirmed, -⟩ := revives
    · exact Mka.SakState.noConfusion active
    · exact Mka.SakState.noConfusion confirmed

/-- A station receives a SAK, misses its Key Server for a while, and hears from
it again. -/
def absence : List Cue :=
  [.hear Mka.supplier (Mka.sakOctets 1), .tick 7000,
    .hear Mka.supplier (Mka.sakOctets 1), .tick 7001]

/-- Under every cipher a peer comes back under the SAK in use, and the traffic
does not resume. -/
theorem not_forall_connected_secured :
    ¬∃ aes, ∀ (cfg : Config) (mi : Octets 12) (start : Ctx)
        (calls : List Call),
      cfg.mode = .mkaPsk → init aes cfg mi = (.ok, start) →
      (∀ event ∈ (machine aes).events start calls,
        event.output.ret = .ok ∨ event.output.ret = .notReady) →
      ∀ event ∈ (machine aes).events start calls, event.input.Serves →
        event.after.mka.peer.valid = true ∧
          event.after.mka.peer.live = true →
        event.after.mka.latestSak.lifecycleState = .active ∨
          event.after.mka.latestSak.lifecycleState = .confirmed →
        event.after.state = .secured := by
  rintro ⟨aes, alwaysSecured⟩
  have playable : ∀ event ∈ (stage Mka.stationCkn).events
      (stationControl 1 10 11) absence, event.input.Playable event.before := by
    decide
  rw [← Mka.ckn_stations aes] at playable
  have plays := plays_stationCtx aes 1 10 11
  have played := @Plays.final aes _ _ _ plays absence playable
  have rets := @Plays.rets aes _ _ _ plays absence playable
  rw [Mka.ckn_stations] at played rets
  have succeeded : ∀ event ∈ (machine aes).events (stationCtx aes 1 10 11)
      (absence.map (Cue.call aes
        (MkaCrypto.keysOf aes Mka.stationCak Mka.stationCkn))),
      event.output.ret = .ok ∨ event.output.ret = .notReady := by
    intro event member
    have answer := List.mem_map_of_mem (f := (·.output.ret)) member
    rw [rets, show ((stage Mka.stationCkn).events (stationControl 1 10 11)
      absence).map (·.output) = List.replicate 4 .ok by decide] at answer
    exact Or.inl (List.eq_of_mem_replicate answer)
  have secured :=
    alwaysSecured _ _ _ _ rfl (init_stationCtx aes 1 10 11) succeeded
  generalize calls : absence.map (Cue.call aes
    (MkaCrypto.keysOf aes Mka.stationCak Mka.stationCkn)) = run
    at secured played
  have last : run = run.dropLast ++ [.tick 7001] := by
    rw [← calls]
    rfl
  have resumed :
      ((machine aes).final (stationCtx aes 1 10 11) run).control.Resumed := by
    rw [last] at secured ⊢
    rw [Transition.Machine.events_concat] at secured
    rw [Transition.Machine.final_concat]
    exact fun connected =>
      secured _ (List.mem_append_right _ List.mem_cons_self) trivial
        connected.1 connected.2
  rw [played.same] at resumed
  unfold Control.Resumed Mka.Participant.Connected Mka.Participant.InUse
    at resumed
  revert resumed
  decide

/-! ## Operational with a live peer -/

namespace Mka

/-- A live peer is recorded. -/
theorem valid_of_live {state : State} {peer : Peer}
    (shape : PeerShape state peer) (live : peer.live = true) :
    peer.valid = true := by
  cases state with
  | init | error => exact shape.elim
  | waitPeer | peerDiscovered =>
      exact Bool.noConfusion (shape.2.symm.trans live)
  | peerLive | operational => exact shape.1

namespace Participant

variable {ctx : Participant} {pdu : Mkpdu}

/-- An operational participant has a SAK in use or about to be installed, and a
participant with a live peer and a SAK in use is operational. -/
def Tracks (ctx : Participant) : Prop :=
  (ctx.state = .operational →
    ctx.latestSak.lifecycleState = .candidate ∨ ctx.InUse) ∧
  (ctx.peer.live = true → ctx.InUse → ctx.state = .operational)

/-- An MKPDU brings the participant back from operational to a live peer, and
the SAK that is in use stays. -/
def Demotes (ctx : Participant) (pdu : Mkpdu) : Prop :=
  ctx.Takes pdu ∧ pdu.localSeen = true ∧ ¬ctx.Displaces pdu ∧ ctx.InUse

/-- An MKPDU leaves the participant operational if the recorded live peer sent
it without listing the participant. -/
theorem metState_operational :
    ctx.metState pdu.basic pdu.localSeen = .operational ↔
      pdu.localSeen = false ∧ ctx.peerIdentityChanged pdu.basic = false ∧
        ctx.peer.live = true ∧ ctx.state = .operational := by
  unfold metState
  cases pdu.localSeen with
  | true => simp
  | false =>
      cases ctx.peerIdentityChanged pdu.basic with
      | true => simp
      | false =>
          cases ctx.peer.live with
          | true => simp
          | false => simp

/-- An MKPDU of the recorded peer leaves a SAK in use or puts one on the way. -/
theorem processMkpdu_due (inv : ctx.Inv)
    (known : ctx.peerIdentityChanged pdu.basic = false)
    (due : ctx.latestSak.lifecycleState = .candidate ∨ ctx.InUse)
    (rnd : Octets 16) (nowMs : UInt32) :
    let after := (ctx.processMkpdu pdu rnd nowMs).2
    after.latestSak.lifecycleState = .candidate ∨ after.InUse := by
  dsimp only
  by_cases displaces : ctx.Displaces pdu
  · rcases ctx.processMkpdu_slots inv pdu rnd nowMs with
      ⟨kept, -⟩ | ⟨-, sak, enters, slots⟩
    · exact absurd displaces kept
    · have latest : (ctx.processMkpdu pdu rnd nowMs).2.latestSak = sak :=
        congrArg Slots.latest slots
      rw [latest]
      cases enters with
      | adopted distributes different stays => exact Or.inl rfl
      | generated regenerates =>
          exact Bool.noConfusion (known.symm.trans regenerates.1.1)
      | dropped serves unlisted =>
          exact Bool.noConfusion (known.symm.trans serves.1)
  · have kept := processMkpdu_kept inv displaces rnd nowMs
    exact due.imp kept.2.mpr kept.1.mpr

/-- An MKPDU that does not demote the participant lets it track its peer. -/
theorem tracks_processMkpdu (inv : ctx.Inv) (tracks : ctx.Tracks)
    (quiet : ¬ctx.Demotes pdu) (rnd : Octets 16) (nowMs : UInt32) :
    (ctx.processMkpdu pdu rnd nowMs).2.Tracks := by
  by_cases takes : ctx.Takes pdu
  · obtain ⟨peer, state⟩ := processMkpdu_follows inv takes rnd nowMs
    unfold Tracks
    rw [peer, state, metState_operational, metPeer_live]
    constructor
    · rintro ⟨-, known, -, operational⟩
      exact processMkpdu_due inv known (tracks.1 operational) rnd nowMs
    · intro live used
      by_cases displaces : ctx.Displaces pdu
      · exact absurd used (processMkpdu_displaced inv displaces rnd nowMs)
      · have inUse := (processMkpdu_kept inv displaces rnd nowMs).1.mp used
        rcases live with listed | ⟨unlisted, known, lived⟩
        · exact absurd ⟨takes, listed, displaces, inUse⟩ quiet
        · exact ⟨unlisted, known, lived, tracks.2 lived inUse⟩
  · rcases ctx.processMkpdu_cases inv pdu rnd nowMs with
      ⟨-, same⟩ | ⟨taken, -⟩
    · rw [same]
      exact tracks
    · exact absurd taken takes

theorem tracks_tick (inv : ctx.Inv) (tracks : ctx.Tracks) (nowMs : UInt32) :
    (ctx.tick nowMs).2.Tracks := by
  obtain ⟨latest, stays, expires⟩ := tick_follows inv nowMs
  unfold Tracks InUse
  rw [latest]
  by_cases silent : ctx.Expires nowMs
  · rw [(expires silent).1, (expires silent).2]
    exact ⟨fun operational => State.noConfusion operational,
      fun live => Bool.noConfusion live⟩
  · rw [(stays silent).1, (stays silent).2]
    exact tracks

theorem tracks_notifyTxSuccess (tracks : ctx.Tracks) {txMeta : TxMeta}
    {nowMs : UInt32}
    (accepted : (ctx.notifyTxSuccess txMeta nowMs).1 = .ok) :
    (ctx.notifyTxSuccess txMeta nowMs).2.Tracks := by
  obtain ⟨peer, state, first, later⟩ := notifyTxSuccess_follows accepted
  unfold Tracks InUse
  rw [peer, state]
  by_cases distributing : ctx.Distributing txMeta
  · rw [first distributing]
    constructor
    · intro operational
      have due := tracks.1 operational
      unfold InUse at due
      rw [distributing.2] at due
      simp at due
    · intro live used
      simp at used
  · rw [later distributing]
    exact tracks

theorem tracks_ensureForTx (tracks : ctx.Tracks) (rnd : Octets 16) :
    (ctx.ensureForTx rnd).2.Tracks := by
  rcases ctx.ensureForTx_cases rnd with same | ⟨-, -, absent, result⟩
  · rw [same]
    exact tracks
  · rw [result]
    constructor
    · intro operational
      have due := tracks.1 operational
      unfold InUse at due
      rw [absent] at due
      simp at due
    · rintro - (active | confirmed)
      · exact SakState.noConfusion active
      · exact SakState.noConfusion confirmed

end Participant

end Mka

/-- Servicing makes the participant operational precisely if it has a live peer
and a SAK in use. -/
theorem Control.tracks_serviced {ctx : Control}
    (serviceable : ctx.mka.Serviceable) (tracks : ctx.mka.Tracks) :
    ctx.serviced.mka.state = .operational ↔ ctx.serviced.mka.Connected := by
  have shape := serviceable.inv.peer
  have peer (operational : ctx.mka.state = .operational) :
      ctx.mka.peer.valid = true ∧ ctx.mka.peer.live = true := by
    rw [operational] at shape
    exact shape
  rw [connected_serviced, serviced_peer.2]
  by_cases available : Mka.Participant.sakAvailable ctx.mka.latestSak = true
  · rw [available, Bool.true_and, ← Bool.and_eq_true]
    split
    next live => exact iff_of_true rfl ⟨live, Or.inl rfl⟩
    next dead =>
        refine iff_of_false (fun operational => ?_) fun both => dead both.1
        rw [Bool.and_eq_true] at dead
        exact dead (peer operational)
  · rw [Bool.not_eq_true] at available
    rw [available, Bool.false_and, if_neg Bool.false_ne_true]
    constructor
    · intro operational
      refine ⟨peer operational, Or.inr ?_⟩
      rcases tracks.1 operational with candidate | used
      · rw [(Mka.Participant.sakAvailable_iff serviceable).mpr
          (Or.inl candidate)] at available
        exact Bool.noConfusion available
      · exact used
    · rintro ⟨⟨-, live⟩, due | used⟩
      · exact absurd due Bool.false_ne_true
      · exact tracks.2 live used

/-- An MKPDU that is received brings the participant back from operational to a
live peer. -/
def Call.Demotes (aes : BlockCipher) (ctx : Ctx) : Call → Prop
  | .input frame _ _ =>
      ∃ pdu, Mka.classify aes ctx.mka frame = .accepted pdu ∧
        ctx.mka.Demotes pdu
  | _ => False

theorem tracks_of_prompts {call : Call} {before : Control}
    (resting : ctx.control.Resting) (tracks : ctx.control.mka.Tracks)
    (quiet : ¬call.Demotes aes ctx) (prompts : Prompts aes ctx call before) :
    before.mka.Tracks := by
  cases prompts with
  | own isMka own => exact tracks
  | @heard frame plain rnd pdu isMka accepted processed =>
      exact Mka.Participant.tracks_processMkpdu resting.mka.inv tracks
        (fun demotes => quiet ⟨pdu, accepted, demotes⟩) rnd _
  | ticked nowMs =>
      exact Mka.Participant.tracks_tick resting.mka.inv tracks nowMs
  | reported pending accepted =>
      exact Mka.Participant.tracks_notifyTxSuccess tracks accepted

/-- A call that does not demote the participant lets it track its peer. -/
theorem tracks_of_step {call : Call} {ret : Err} {after : Control}
    (resting : ctx.control.Resting) (tracks : ctx.control.mka.Tracks)
    (quiet : ¬call.Demotes aes ctx) (step : Step aes ctx call ret after) :
    after.mka.Tracks := by
  cases step with
  | passive silent same => exact tracks
  | built generated =>
      rcases generated with rfl | rfl
      · exact tracks
      · exact Mka.Participant.tracks_ensureForTx tracks _
  | returned => exact tracks
  | refused failed => exact tracks
  | @failed frame plain rnd pdu isMka accepted failed =>
      exact Mka.Participant.tracks_processMkpdu resting.mka.inv tracks
        (fun demotes => quiet ⟨pdu, accepted, demotes⟩) rnd _
  | @serviced call before serves prompts serviceable =>
      have shape := (Control.serviced_resting serviceable).inv.peer
      have operational :=
        Control.tracks_serviced serviceable
          (tracks_of_prompts resting tracks quiet prompts)
      refine ⟨fun reached => Or.inr (operational.mp reached).2,
        fun live used => ?_⟩
      exact operational.mpr ⟨⟨Mka.valid_of_live shape live, live⟩, used⟩

/-- In a run in which no MKPDU demotes the participant, every call that services
the key agreement with success leaves it operational precisely if it has a live
peer and a SAK in use, and no MKPDU of the recorded peer takes it out of
operation. -/
theorem operational_connected {cfg : Config} {mi : Octets 12}
    (mode : cfg.mode = .mkaPsk)
    (initialised : init aes cfg mi = (.ok, ctx)) (calls : List Call)
    (quiet : ∀ event ∈ (machine aes).events ctx calls,
      ¬event.input.Demotes aes event.before) :
    ∀ event ∈ (machine aes).events ctx calls,
      event.input.Serves → event.output.ret = .ok →
        (event.after.mka.state = .operational ↔
          (event.after.mka.peer.valid = true ∧
            event.after.mka.peer.live = true) ∧
          (event.after.mka.latestSak.lifecycleState = .active ∨
            event.after.mka.latestSak.lifecycleState = .confirmed)) ∧
        ∀ frame plain rnd pdu, event.input = .input frame plain rnd →
          Mka.classify aes event.before.mka frame = .accepted pdu →
          event.before.mka.peerIdentityChanged pdu.basic = false →
          event.before.mka.state = .operational →
            event.after.mka.state = .operational := by
  obtain ⟨resting, -, absent, waits, dead⟩ := init_waits mode initialised
  refine @Transition.Machine.forall_guarded _ _ _ (machine aes)
    (fun ctx => ctx.control.Resting ∧ ctx.control.mka.Tracks) _ _ ?_ ?_ ctx
    ⟨resting, ?_⟩ calls quiet
  · intro ctx call ⟨resting, tracks⟩ quiet
    exact ⟨perform_resting resting call,
      tracks_of_step resting tracks quiet (perform_step resting call)⟩
  · intro ctx call ⟨resting, tracks⟩ quiet serves succeeded
    obtain ⟨before, prompts, serviceable, result⟩ :=
      serviced_of_ok (perform_step resting call) succeeded serves
    have operational :=
      Control.tracks_serviced serviceable
        (tracks_of_prompts resting tracks quiet prompts)
    rw [← result] at operational
    refine ⟨operational, ?_⟩
    intro frame plain rnd pdu input accepted known before
    change call = _ at input
    change Mka.classify aes ctx.mka frame = _ at accepted
    change ctx.control.mka.peerIdentityChanged _ = false at known
    change ctx.control.mka.state = _ at before
    subst input
    cases prompts with
    | own isMka own =>
        exact Mka.Received.noConfusion (own.symm.trans accepted)
    | @heard _ _ _ other isMka heard processed =>
        rw [accepted] at heard
        cases heard
        have inv := resting.mka.inv
        have takes :=
          ((Mka.Participant.processMkpdu_ok_iff inv pdu rnd _).mp processed).1
        obtain ⟨peer, -⟩ :=
          Mka.Participant.processMkpdu_follows inv takes rnd ctx.lastTickMs
        have shape := inv.peer
        rw [before] at shape
        refine operational.mpr ?_
        rw [result, Control.connected_serviced,
          Mka.Participant.sakAvailable_iff serviceable]
        refine ⟨⟨congrArg Mka.Peer.valid peer, ?_⟩, ?_⟩
        · refine (congrArg Mka.Peer.live peer).trans ?_
          rw [Mka.Participant.metPeer_live]
          cases pdu.localSeen with
          | true => exact Or.inl rfl
          | false => exact Or.inr ⟨rfl, known, shape.2⟩
        · exact (Mka.Participant.processMkpdu_due inv known (tracks.1 before)
            rnd _).imp Or.inl id
  · refine ⟨fun operational => ?_, fun live => ?_⟩
    · exact Mka.State.noConfusion (waits.symm.trans operational)
    · exact Bool.noConfusion (dead.symm.trans live)

/-- A station with a live Key Server and a SAK in use is operational. -/
theorem supplied_operational :
    (perform BlockCipher.null (stationCtx BlockCipher.null 1 10 11)
      (hearSupplier BlockCipher.null)).1.mka.state = .operational := by
  obtain ⟨after, ret⟩ := perform_hearSupplier BlockCipher.null
  have connected :
      (perform BlockCipher.null (stationCtx BlockCipher.null 1 10 11)
        (hearSupplier BlockCipher.null)).1.control.mka.Connected := by
    rw [after]
    unfold Mka.Participant.Connected Mka.Participant.InUse
    decide
  have serves : (hearSupplier BlockCipher.null).Serves :=
    isEapolMka_hearSupplier BlockCipher.null
  refine (operational_connected rfl (init_stationCtx BlockCipher.null 1 10 11)
    [hearSupplier BlockCipher.null] ?_ _ List.mem_cons_self serves ret).1.mpr
    connected
  rintro event member demotes
  rw [List.mem_singleton.mp member] at demotes
  obtain ⟨pdu, -, -, -, -, active | confirmed⟩ := demotes
  · exact Mka.SakState.noConfusion active
  · exact Mka.SakState.noConfusion confirmed

/-- Under every cipher a station with a live peer and a SAK in use is not
operational after the next MKPDU. -/
theorem not_forall_operational :
    ¬∃ aes, ∀ (ctx : Ctx) (nowMs : UInt32), Reachable aes .mkaPsk ctx →
      (perform aes ctx (.tick nowMs)).2.ret = .ok →
      let after := (perform aes ctx (.tick nowMs)).1
      after.mka.state = .operational ↔
        (after.mka.peer.valid = true ∧ after.mka.peer.live = true) ∧
          (after.mka.latestSak.lifecycleState = .active ∨
            after.mka.latestSak.lifecycleState = .confirmed) := by
  rintro ⟨aes, alwaysConnected⟩
  obtain ⟨ctx, reachable, plays⟩ :=
    @exists_final aes 1 10 11
      [.hear Mka.supplier (Mka.sakOctets 1),
        .hear Mka.supplier (Mka.sakOctets 1)] (by decide)
  have succeeded := congrArg Prod.fst (Control.tick_eq reachable.resting 5)
  have operational := alwaysConnected ctx 5 reachable succeeded
  change (ctx.control.tick 5).2.mka.state = .operational ↔
    ((ctx.control.tick 5).2.mka.peer.valid = true ∧
        (ctx.control.tick 5).2.mka.peer.live = true) ∧
      ((ctx.control.tick 5).2.mka.latestSak.lifecycleState = .active ∨
        (ctx.control.tick 5).2.mka.latestSak.lifecycleState = .confirmed)
    at operational
  rw [plays.same] at operational
  revert operational
  decide

end Macsec
