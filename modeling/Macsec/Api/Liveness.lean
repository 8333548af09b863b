import Macsec.Api.Scripts
import Macsec.Api.Steps
import Macsec.Mka.Reasons

/-!
# A secured context and its peer

A context is secured once a SAK was installed, and waits for MKA once its peer
was lost.  Both are events, so a SAK that still waits for its installation is
installed even if the peer is gone by then.  This happens in two ways: the frame
that distributes the SAK is reported as transmitted after the peer timed out,
and a tick finds the peer silent while an error has left an adopted SAK waiting.
-/

namespace Macsec

namespace Mka

namespace Participant

variable {ctx : Participant}

/-! ## What the participant reacts to -/

/-- A SAK that can be serviced is due after its adoption or its first
distribution. -/
theorem sakAvailable_iff (serviceable : ctx.Serviceable) :
    sakAvailable ctx.latestSak = true ↔
      ctx.latestSak.lifecycleState = .candidate ∨
        ctx.latestSak.lifecycleState = .distributed := by
  constructor
  · intro available
    rcases lifecycle_of_available available with
      candidate | distributed | pending
    · exact Or.inl candidate
    · exact Or.inr distributed
    · exact absurd pending serviceable.notInstalling
  · have shape := serviceable.inv.latest
    rintro (candidate | distributed)
    · rw [LatestShape, candidate] at shape
      simp [sakAvailable, candidate, shape.2.1]
    · rw [LatestShape, distributed] at shape
      simp [sakAvailable, distributed, shape.2.1]

/-- A frame carries the latest SAK for the first time. -/
def Distributing (ctx : Participant) (txMeta : TxMeta) : Prop :=
  txMeta.containsDistributedSak = true ∧
    ctx.latestSak.lifecycleState = .distributionPending

instance (ctx : Participant) (txMeta : TxMeta) :
    Decidable (ctx.Distributing txMeta) :=
  inferInstanceAs (Decidable (_ ∧ _))

/-- An accepted report leaves the peer alone, and the latest SAK too unless it
is about its first distribution. -/
theorem notifyTxSuccess_follows {txMeta : TxMeta} {nowMs : UInt32}
    (accepted : (ctx.notifyTxSuccess txMeta nowMs).1 = .ok) :
    let after := (ctx.notifyTxSuccess txMeta nowMs).2
    after.peer = ctx.peer ∧ after.state = ctx.state ∧
      (ctx.Distributing txMeta →
        after.latestSak.lifecycleState = .distributed) ∧
      (¬ctx.Distributing txMeta → after.latestSak = ctx.latestSak) := by
  dsimp only
  have report := (ctx.notifyTxSuccess_ok_iff txMeta nowMs).mp accepted
  have first (distributing : ctx.Distributing txMeta) :
      ctx.notifyDistributed txMeta = (.ok, ctx.committed) := by
    obtain ⟨contains, pending⟩ := distributing
    obtain ⟨distributable, own, number, an⟩ := report.2.2.2 contains
    unfold notifyDistributed
    rw [contains, distributable, own, number, an, if_neg (by decide),
      if_neg (by simp), if_pos pending, commitDistribution,
      setLatestState_of_allowed (by rw [pending]; rfl)]
    rfl
  rcases ctx.notifyTxSuccess_cases txMeta nowMs with
    ⟨refused, -⟩ | ⟨-, -, result⟩
  · exact absurd accepted refused
  · rw [result]
    rcases ctx.notifyDistributed_cases txMeta with
      same | ⟨contains, pending, -, -, -, distributed⟩
    · change (ctx.notifyDistributed txMeta).2.peer = _ ∧
        (ctx.notifyDistributed txMeta).2.state = _ ∧
        (_ → (ctx.notifyDistributed txMeta).2.latestSak.lifecycleState = _) ∧
        (_ → (ctx.notifyDistributed txMeta).2.latestSak = _)
      refine ⟨by rw [same], by rw [same], fun distributing => ?_,
        fun _ => by rw [same]⟩
      rw [first distributing]
      rfl
    · rw [distributed]
      exact ⟨rfl, rfl, fun _ => rfl,
        fun other => absurd ⟨contains, pending⟩ other⟩

end Participant

end Mka

variable {aes : BlockCipher} {ctx : Ctx}

theorem state_of_prompts {call : Call} {before : Control}
    (prompts : Prompts aes ctx call before) : before.state = ctx.state := by
  cases prompts with
  | own | heard | ticked | reported => rfl

/-- A tick finds the peer silent. -/
def Call.Loses (ctx : Control) (call : Call) : Prop :=
  ∃ nowMs, call = .tick nowMs ∧ ctx.mka.Expires nowMs

/-- Only a tick that finds the peer silent loses it. -/
theorem peerLost_of_prompts {call : Call} {before : Control}
    (resting : ctx.control.Resting) (prompts : Prompts aes ctx call before) :
    hasFlag before.mka.pendingEvents Mka.EventFlag.peerLost = true ↔
      call.Loses ctx.control := by
  have quiet :=
    Mka.Participant.hasFlag_servicedEvents_eq_false.mp resting.mka.quiet
  have silent {pending : UInt32} {call : Call}
      (kept : hasFlag pending Mka.EventFlag.peerLost = false)
      (other : ∀ nowMs, call ≠ .tick nowMs) :
      hasFlag pending Mka.EventFlag.peerLost = true ↔
        call.Loses ctx.control := by
    rw [kept]
    exact iff_of_false Bool.false_ne_true
      fun ⟨nowMs, same, _⟩ => other nowMs same
  cases prompts with
  | own isMka own => exact silent quiet.2.2 fun _ => Call.noConfusion
  | heard isMka accepted processed =>
      exact silent
        ((Mka.Participant.processMkpdu_serviceable resting.mka _ _ _).2
          processed).2.2 fun _ => Call.noConfusion
  | ticked nowMs =>
      obtain ⟨expired, events, reasons, which, harmless, result⟩ :=
        Mka.Participant.tick_cases resting.mka.inv nowMs
      have events :=
        Mka.Participant.hasFlag_servicedEvents_eq_false.mp harmless
      change hasFlag (ctx.control.mka.tick nowMs).2.pendingEvents _ = true ↔ _
      rw [result, hasFlag_or, events.2.2, Bool.or_false]
      simp only [Call.Loses, Call.tick.injEq, exists_eq_left']
      rcases which with ⟨stays, rfl⟩ | ⟨expires, rfl⟩
      · exact iff_of_false (by rw [quiet.2.2]; exact Bool.false_ne_true) stays
      · refine iff_of_true ?_ expires
        change hasFlag (_ ||| _) _ = true
        rw [hasFlag_or, Bool.or_eq_true]
        exact Or.inr (by decide)
  | reported pending accepted =>
      refine silent ?_ fun _ => Call.noConfusion
      rcases ctx.control.mka.notifyTxSuccess_cases ctx.pendingMkaTxMeta _ with
        ⟨failed, -⟩ | ⟨-, -, result⟩
      · exact absurd accepted failed
      · change hasFlag (ctx.control.mka.notifyTxSuccess _ _).2.pendingEvents _
          = false
        rw [result]
        rcases ctx.control.mka.notifyDistributed_cases
            ctx.pendingMkaTxMeta with
          same | ⟨-, -, -, -, -, distributed⟩
        · rw [same]
          exact quiet.2.2
        · rw [distributed]
          change hasFlag (_ ||| _) _ = false
          rw [hasFlag_or, quiet.2.2]
          decide

/-- Servicing leaves a context secured if it installs a SAK, or if the context
was secured and its peer is not lost. -/
theorem secured_of_prompts {call : Call} {before : Control}
    (resting : ctx.control.Resting) (prompts : Prompts aes ctx call before) :
    before.serviced.state = .secured ↔
      Mka.Participant.sakAvailable before.mka.latestSak = true ∨
        (ctx.state = .secured ∧ ¬call.Loses ctx.control) := by
  rw [Control.serviced_state, state_of_prompts prompts,
    ← peerLost_of_prompts resting prompts]
  split_ifs with available lost
  · exact iff_of_true rfl (Or.inl available)
  · refine iff_of_false id ?_
    rintro (due | kept)
    · exact available due
    · exact kept.2 lost
  · constructor
    · exact fun secured => Or.inr ⟨secured, lost⟩
    · rintro (due | kept)
      · exact absurd due available
      · exact kept.1

/-! ## Secured without a peer -/

/-- A call installs a SAK although no peer is recorded. -/
def Call.InstallsAlone (ctx : Control) : Call → Prop
  | .tick nowMs =>
      ctx.mka.latestSak.lifecycleState = .candidate ∧ ctx.mka.Expires nowMs
  | .notifyControlTxSuccess _ =>
      ctx.pendingMkaTxValid = true ∧
        ctx.mka.TakesReport ctx.pendingMkaTxMeta ∧
        ctx.mka.Distributing ctx.pendingMkaTxMeta ∧
        ctx.mka.peer.valid = false
  | _ => False

namespace Control

/-- A SAK that was adopted and still waits was adopted from the recorded peer.
-/
def Attended (ctx : Control) : Prop :=
  ctx.mka.latestSak.lifecycleState = .candidate → ctx.mka.peer.valid = true

/-- A secured context has a peer. -/
def Accompanied (ctx : Control) : Prop :=
  ctx.state = .secured → ctx.mka.peer.valid = true

end Control

theorem attended_of_step {call : Call} {ret : Err} {after : Control}
    (resting : ctx.control.Resting) (attended : ctx.control.Attended)
    (step : Step aes ctx call ret after) : after.Attended := by
  cases step with
  | passive silent same => exact attended
  | @built txMaxLen rnd ret mka txMeta pending generated =>
      rcases generated with rfl | rfl
      · exact attended
      · intro candidate
        rcases ctx.mka.toParticipant.ensureForTx_cases rnd with
          same | ⟨-, -, -, result⟩
        · change
            (ctx.mka.toParticipant.ensureForTx rnd).2.latestSak.lifecycleState
            = _ at candidate
          change (ctx.mka.toParticipant.ensureForTx rnd).2.peer.valid = _
          rw [same] at candidate ⊢
          exact attended candidate
        · change
            (ctx.mka.toParticipant.ensureForTx rnd).2.latestSak.lifecycleState
            = _ at candidate
          rw [result] at candidate
          exact Mka.SakState.noConfusion candidate
  | returned => exact attended
  | refused failed => exact attended
  | @failed frame plain rnd pdu isMka accepted failed =>
      intro candidate
      by_cases takes : ctx.mka.toParticipant.Takes pdu
      · have follows :=
          Mka.Participant.processMkpdu_follows resting.mka.inv takes rnd
            ctx.lastTickMs
        exact congrArg Mka.Peer.valid follows.1
      · rcases ctx.mka.toParticipant.processMkpdu_cases resting.mka.inv pdu rnd
            ctx.lastTickMs with ⟨-, same⟩ | ⟨taken, -⟩
        · rw [show (ctx.mka.processMkpdu pdu rnd ctx.lastTickMs).2 = _ from
            same]
            at candidate ⊢
          exact attended candidate
        · exact absurd taken takes
  | serviced serves prompts serviceable =>
      exact fun candidate =>
        absurd candidate (Control.serviced_not_candidate serviceable)

/-- A call that installs a SAK alone succeeds. -/
theorem ok_of_installsAlone (resting : ctx.control.Resting) {call : Call}
    (alone : call.InstallsAlone ctx.control) :
    call.Serves ∧ (perform aes ctx call).2.ret = .ok := by
  cases call with
  | tick nowMs =>
      exact ⟨trivial, congrArg Prod.fst (Control.tick_eq resting nowMs)⟩
  | notifyControlTxSuccess nowMs =>
      obtain ⟨pending, takes, -⟩ := alone
      refine ⟨trivial, ?_⟩
      rcases Control.notifyControlTxSuccess_cases resting nowMs with
        ⟨none, -⟩ | ⟨-, failed, -⟩ | ⟨-, -, -, result⟩
      · exact Bool.noConfusion (none.symm.trans pending)
      · exact absurd ((Mka.Participant.notifyTxSuccess_ok_iff _ _).mpr takes)
          failed
      · exact congrArg Prod.fst result
  | input | output | buildControlFrame | notifyControlTxFailure =>
      exact alone.elim

/-- Servicing secures a context without a peer only if the call installs a SAK
alone. -/
theorem accompanied_serviced_iff {call : Call} {before : Control}
    (resting : ctx.control.Resting) (attended : ctx.control.Attended)
    (accompanied : ctx.control.Accompanied)
    (prompts : Prompts aes ctx call before)
    (serviceable : before.mka.Serviceable) :
    before.serviced.Accompanied ↔ ¬call.InstallsAlone ctx.control := by
  have settled := resting.mka.settled.1
  unfold Control.Accompanied
  rw [secured_of_prompts resting prompts, Control.serviced_peer.1,
    Mka.Participant.sakAvailable_iff serviceable]
  cases prompts with
  | own isMka own =>
      refine iff_of_true ?_ id
      rintro ((candidate | distributed) | ⟨secured, -⟩)
      · exact attended candidate
      · exact absurd distributed settled
      · exact accompanied secured
  | heard isMka accepted processed =>
      refine iff_of_true (fun _ => ?_) id
      have takes :=
        ((Mka.Participant.processMkpdu_ok_iff resting.mka.inv _ _ _).mp
          processed).1
      exact congrArg Mka.Peer.valid
        (Mka.Participant.processMkpdu_follows resting.mka.inv takes _ _).1
  | ticked nowMs =>
      obtain ⟨latest, stays, expires⟩ :=
        Mka.Participant.tick_follows resting.mka.inv nowMs
      change ((ctx.mka.tick nowMs).2.latestSak.lifecycleState = _ ∨
        (ctx.mka.tick nowMs).2.latestSak.lifecycleState = _) ∨ _ →
          (ctx.mka.tick nowMs).2.peer.valid = true ↔ _
      rw [show (ctx.mka.tick nowMs).2.latestSak = _ from latest]
      by_cases silent : ctx.mka.toParticipant.Expires nowMs
      · rw [show (ctx.mka.tick nowMs).2.peer = _ from (expires silent).1]
        constructor
        · exact fun valid alone =>
            Bool.false_ne_true (valid (Or.inl (Or.inl alone.1)))
        · rintro notAlone ((candidate | distributed) | ⟨-, kept⟩)
          · exact absurd ⟨candidate, silent⟩ notAlone
          · exact absurd distributed settled
          · exact absurd ⟨nowMs, rfl, silent⟩ kept
      · rw [show (ctx.mka.tick nowMs).2.peer = _ from (stays silent).1]
        refine iff_of_true ?_ fun alone => silent alone.2
        rintro ((candidate | distributed) | ⟨secured, -⟩)
        · exact attended candidate
        · exact absurd distributed settled
        · exact accompanied secured
  | @reported nowMs pending accepted =>
      obtain ⟨peer, -, first, later⟩ :=
        Mka.Participant.notifyTxSuccess_follows accepted
      have takes := (Mka.Participant.notifyTxSuccess_ok_iff _ _).mp accepted
      change ((ctx.mka.notifyTxSuccess _ nowMs).2.latestSak.lifecycleState = _ ∨
        (ctx.mka.notifyTxSuccess _ nowMs).2.latestSak.lifecycleState = _) ∨ _ →
          (ctx.mka.notifyTxSuccess _ nowMs).2.peer.valid = true ↔ _
      rw [show (ctx.mka.notifyTxSuccess _ nowMs).2.peer = _ from peer]
      by_cases distributing :
          ctx.mka.toParticipant.Distributing ctx.pendingMkaTxMeta
      · constructor
        · intro valid alone
          have absent := valid (Or.inl (Or.inr (first distributing)))
          exact Bool.noConfusion (alone.2.2.2.symm.trans absent)
        · intro notAlone _
          rw [← Bool.not_eq_false]
          exact fun absent =>
            notAlone ⟨pending, takes, distributing, absent⟩
      · rw [show (ctx.mka.notifyTxSuccess _ nowMs).2.latestSak = _ from
          later distributing]
        refine iff_of_true ?_ fun alone => distributing alone.2.2.1
        rintro ((candidate | distributed) | ⟨secured, -⟩)
        · exact attended candidate
        · exact absurd distributed settled
        · exact accompanied secured

/-- A context stays accompanied unless a call installs a SAK alone. -/
theorem accompanied_perform_iff (resting : ctx.control.Resting)
    (attended : ctx.control.Attended)
    (accompanied : ctx.control.Accompanied) (call : Call) :
    (perform aes ctx call).1.control.Accompanied ↔
      ¬call.InstallsAlone ctx.control := by
  have step := @perform_step aes ctx resting call
  by_cases served : call.Serves ∧ (perform aes ctx call).2.ret = .ok
  · obtain ⟨before, prompts, serviceable, result⟩ :=
      serviced_of_ok step served.2 served.1
    rw [result]
    exact accompanied_serviced_iff resting attended accompanied prompts
      serviceable
  · refine iff_of_true ?_ fun alone =>
      served (ok_of_installsAlone resting alone)
    generalize (perform aes ctx call).2.ret = ret at step served
    generalize (perform aes ctx call).1.control = after at step
    cases step with
    | passive silent same => exact accompanied
    | @built txMaxLen rnd ret mka txMeta pending generated =>
        intro secured
        have peer : mka.peer = ctx.mka.peer := by
          rcases generated with rfl | rfl
          · rfl
          · rcases ctx.mka.toParticipant.ensureForTx_cases rnd with
              same | ⟨-, -, -, result⟩
            · rw [same]
            · rw [result]
        exact (congrArg Mka.Peer.valid peer).trans (accompanied secured)
    | returned => exact accompanied
    | refused failed => exact fun secured => State.noConfusion secured
    | failed isMka accepted failed =>
        exact fun secured => State.noConfusion secured
    | serviced serves prompts serviceable => exact absurd ⟨serves, rfl⟩ served

/-- Every initialised context is at rest, waits for MKA and has neither a SAK
nor a peer. -/
theorem init_waits {cfg : Config} {mi : Octets 12}
    (mode : cfg.mode = .mkaPsk)
    (initialised : init aes cfg mi = (.ok, ctx)) :
    ctx.control.Resting ∧ ctx.state = .waitMka ∧
      ctx.mka.latestSak.lifecycleState = .none ∧
      ctx.mka.state = .waitPeer ∧ ctx.mka.peer.live = false := by
  refine ⟨init_resting mode initialised, ?_⟩
  rw [(init_mkaPsk mode initialised).1]
  refine ⟨rfl, ?_⟩
  change
    (Mka.Participant.start _ _ _ _ mi).completeInit.latestSak.lifecycleState
      = .none ∧ (Mka.Participant.start _ _ _ _ mi).completeInit.state = _ ∧
    (Mka.Participant.start _ _ _ _ mi).completeInit.peer.live = false
  rw [Mka.completeInit_eq]
  exact ⟨rfl, rfl, rfl⟩

/-- A call hears an authenticated MKPDU. -/
def Hears (aes : BlockCipher) (event : Transition.Event Ctx Call Reply) :
    Prop :=
  ∃ frame plain rnd pdu, event.input = .input frame plain rnd ∧
    Mka.classify aes event.before.mka frame = .accepted pdu

/-- A context that lost its peer finds one only in an authenticated MKPDU. -/
theorem alone_perform (resting : ctx.control.Resting)
    (alone : ctx.mka.peer.valid = false) {call : Call}
    (unheard : ¬Hears aes ((machine aes).event ctx call)) :
    (perform aes ctx call).1.mka.peer.valid = false := by
  have step := @perform_step aes ctx resting call
  change (perform aes ctx call).1.control.mka.peer.valid = false
  generalize (perform aes ctx call).2.ret = ret at step
  generalize (perform aes ctx call).1.control = after at step
  cases step with
  | passive silent same => exact alone
  | @built txMaxLen rnd ret mka txMeta pending generated =>
      rcases generated with rfl | rfl
      · exact alone
      · change (ctx.mka.toParticipant.ensureForTx rnd).2.peer.valid = false
        rcases ctx.mka.toParticipant.ensureForTx_cases rnd with
          same | ⟨-, -, -, result⟩
        · rw [same]
          exact alone
        · rw [result]
          exact alone
  | returned => exact alone
  | refused failed => exact alone
  | failed isMka accepted failed =>
      exact absurd ⟨_, _, _, _, rfl, accepted⟩ unheard
  | @serviced call before serves prompts serviceable =>
      rw [Control.serviced_peer.1]
      cases prompts with
      | own isMka own => exact alone
      | heard isMka accepted processed =>
          exact absurd ⟨_, _, _, _, rfl, accepted⟩ unheard
      | ticked nowMs =>
          obtain ⟨-, stays, expires⟩ :=
            Mka.Participant.tick_follows resting.mka.inv nowMs
          change (ctx.control.mka.tick nowMs).2.peer.valid = false
          by_cases silent : ctx.control.mka.Expires nowMs
          · rw [(expires silent).1]
            rfl
          · rw [(stays silent).1]
            exact alone
      | reported pending accepted =>
          exact (congrArg Mka.Peer.valid
            (Mka.Participant.notifyTxSuccess_follows accepted).1).trans alone

/-- A tick that finds the peer silent leaves no peer. -/
theorem alone_of_loses (resting : ctx.control.Resting) {call : Call}
    (loses : call.Loses ctx.control) :
    (perform aes ctx call).1.mka.peer.valid = false := by
  obtain ⟨nowMs, rfl, silent⟩ := loses
  have follows := Mka.Participant.tick_follows resting.mka.inv nowMs
  change (ctx.control.tick nowMs).2.mka.peer.valid = false
  rw [Control.tick_eq resting, Control.serviced_peer.1]
  exact congrArg Mka.Peer.valid (follows.2.2 silent).1

/-- In every run a secured context has a peer, and is not secured from the loss
of a peer to the next authenticated MKPDU, precisely if no call installs a SAK
alone. -/
theorem secured_accompanied_iff {cfg : Config} {mi : Octets 12}
    (mode : cfg.mode = .mkaPsk)
    (initialised : init aes cfg mi = (.ok, ctx)) (calls : List Call) :
    let events := (machine aes).events ctx calls
    ((∀ event ∈ events, event.after.state = .secured →
        event.after.mka.peer.valid = true) ∧
      ∀ past lost quiet rest, events = past ++ lost :: (quiet ++ rest) →
        lost.input.Loses lost.before.control →
        (∀ later ∈ quiet, ¬Hears aes later) →
        ∀ later ∈ lost :: quiet, later.after.state ≠ .secured) ↔
      ∀ event ∈ events, ¬event.input.InstallsAlone event.before.control := by
  intro events
  obtain ⟨resting, waits, absent, -⟩ := init_waits mode initialised
  have rests (ctx : Ctx) (call : Call) (resting : ctx.control.Resting) :
      (perform aes ctx call).1.control.Resting := perform_resting resting call
  have accompanied :=
    @Transition.Machine.good_iff_guarded _ _ _ (machine aes)
      (fun ctx => ctx.control.Resting ∧ ctx.control.Attended)
      (fun ctx => ctx.control.Accompanied) (fun _ => True) (fun _ => True)
      (fun event => ¬event.input.InstallsAlone event.before.control)
      (fun _ unwatched => absurd trivial unwatched)
      (fun ctx call ⟨resting, attended⟩ _ =>
        ⟨perform_resting resting call,
          attended_of_step resting attended (perform_step resting call)⟩)
      (fun ctx call ⟨resting, attended⟩ accompanied _ =>
        accompanied_perform_iff resting attended accompanied call)
      ctx ⟨resting, fun candidate =>
        Mka.SakState.noConfusion (absent.symm.trans candidate)⟩
      (fun secured => State.noConfusion (waits.symm.trans secured))
      calls (fun _ _ => trivial)
  rw [← accompanied]
  constructor
  · exact fun both event member _ => both.1 event member
  · intro good
    refine ⟨fun event member => good event member trivial, ?_⟩
    intro past lost quiet rest split loses unheard
    have alone : ∀ later ∈ lost :: quiet,
        later.after.mka.peer.valid = false := by
      obtain ⟨restingBefore, same, calls', run⟩ :=
        @Transition.Machine.events_after _ _ _ (machine aes) ctx calls
          (fun ctx => ctx.control.Resting) rests resting _ _ _ split
      have gone : lost.after.mka.peer.valid = false := by
        rw [same]
        exact alone_of_loses restingBefore loses
      refine List.forall_mem_cons.mpr ⟨gone, ?_⟩
      refine @Transition.Machine.holds_while _ _ _ (machine aes)
        (fun ctx => ctx.control.Resting)
        (fun ctx => ctx.mka.peer.valid = false) (Hears aes) rests
        (fun ctx call resting alone unheard =>
          alone_perform resting alone unheard) _ ?_ gone _ _ _ run unheard
      rw [same]
      exact perform_resting restingBefore _
    intro later member secured
    have present : later ∈ events := by
      rw [show events = _ from split]
      refine List.mem_append_right _ ?_
      rw [← List.cons_append]
      exact List.mem_append_left _ member
    exact Bool.noConfusion
      ((alone later member).symm.trans (good later present trivial secured))

/-- A station that its Key Server secures has a peer. -/
theorem supplied_accompanied :
    (perform BlockCipher.null (stationCtx BlockCipher.null 1 10 11)
      (hearSupplier BlockCipher.null)).1.mka.peer.valid = true := by
  have after := (perform_hearSupplier BlockCipher.null).1
  have secured : (perform BlockCipher.null (stationCtx BlockCipher.null 1 10 11)
      (hearSupplier BlockCipher.null)).1.control.state = .secured := by
    rw [after]
    decide
  refine ((secured_accompanied_iff rfl (init_stationCtx BlockCipher.null 1 10 11)
    [hearSupplier BlockCipher.null]).mpr ?_).1 _ List.mem_cons_self secured
  intro event member installs
  rw [List.mem_singleton.mp member] at installs
  exact installs

/-- Under every cipher some context is secured without a peer: its first SAK was
on the way when the peer timed out. -/
theorem not_forall_secured_accompanied :
    ¬∃ aes, ∀ ctx : Ctx, Reachable aes .mkaPsk ctx →
      ctx.state = .secured → ctx.mka.peer.valid = true := by
  rintro ⟨aes, alwaysAccompanied⟩
  obtain ⟨ctx, reachable, plays⟩ :=
    @exists_final aes 1 10 11
      [.hear Mka.admirer (Mka.sakOctets 1), Cue.build (Mka.sakOctets 2),
        .tick 7000, .notifySuccess 7001] (by decide)
  have accompanied := alwaysAccompanied ctx reachable
  change ctx.control.state = .secured → ctx.control.mka.peer.valid = true
    at accompanied
  rw [plays.same] at accompanied
  revert accompanied
  decide

end Macsec
