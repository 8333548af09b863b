import Macsec.Mka.Displacement

/-!
# The SAKs that a participant distributes

A Key Server numbers its SAKs.  The number of a SAK is used up when the first
transmission of an MKPDU with it is reported, but such an MKPDU exists as soon
as it is built.  Two SAKs share a number only if the first one is displaced
between the two.
-/

namespace Macsec

namespace Mka

/-- A Distributed SAK parameter set is about a SAK. -/
structure DistributedSak.Describes (found : DistributedSak) (slot : Sak) :
    Prop where
  sak : found.sak = slot.sak
  keyNumber : found.keyNumber = slot.keyNumber
  an : found.an = slot.an

/-- A step returns an MKPDU with a Distributed SAK parameter set. -/
def Carries (aes : BlockCipher) (event : Transition.Event Ctx Call Err)
    (found : DistributedSak) : Prop :=
  ∃ rnd frameMaxLen,
    event.input = .buildTxFrame rnd frameMaxLen ∧
      (buildTxFrame aes event.before rnd frameMaxLen).1 = .ok ∧
      scanDistributedSak aes event.before.crypto
        (buildTxFrame aes event.before rnd frameMaxLen).2.2.1 = .ok found

/-- An MKPDU with a Distributed SAK parameter set was returned before. -/
def Sent (aes : BlockCipher) (past : List (Transition.Event Ctx Call Err))
    (found : DistributedSak) : Prop :=
  ∃ event ∈ past, Carries aes event found

theorem sent_concat {aes : BlockCipher}
    {past : List (Transition.Event Ctx Call Err)}
    {event : Transition.Event Ctx Call Err} :
    Sent aes (past ++ [event]) =
      fun found => Sent aes past found ∨ Carries aes event found := by
  funext found
  simp only [Sent, List.mem_append, List.mem_singleton, or_and_right,
    exists_or, exists_eq_left]

/-- A built frame offers the SAK of its sender. -/
theorem scanDistributedSak_buildFrame {aes : BlockCipher}
    {crypto : MkaCrypto.Ctx} {sender : Participant} {frame : Bytes}
    (keyed : crypto.Keyed) (shape : LatestShape sender.latestSak)
    (built : buildFrame aes crypto sender = .ok frame) :
    scanDistributedSak aes crypto frame = sender.offeredSak := by
  obtain ⟨wrapped, icv, result, writes, unwraps, -⟩ :=
    Participant.exists_buildFrame aes keyed shape
      (Participant.txMicLen_fits shape keyed.ckn)
  rw [built, Except.ok.injEq] at result
  rw [result]
  exact Participant.scanDistributedSak_frameWith writes icv
    (fun included =>
      (Participant.held_of_includeDistributedSak shape included).1)
    unwraps

/-- An offered SAK is the latest one, and a local one. -/
theorem describes_of_offeredSak {sender : Participant}
    {found : DistributedSak} (offered : sender.offeredSak = .ok found) :
    found.Describes sender.latestSak ∧
      sender.includeDistributedSak = true := by
  unfold Participant.offeredSak at offered
  split_ifs at offered with included keyNumber sakLen
  cases offered
  exact ⟨⟨rfl, rfl, rfl⟩, included⟩

variable {aes : BlockCipher} {ctx : Ctx}

/-- A SAK in a returned MKPDU is the latest one of its sender, which is
distributable and was generated by it. -/
theorem latest_of_carries (inv : ctx.toParticipant.Inv)
    (keyed : ctx.crypto.Keyed) {call : Call} {found : DistributedSak}
    (carries : Carries aes ((machine aes).event ctx call) found) :
    found.Describes (perform aes ctx call).1.latestSak ∧
      (perform aes ctx call).1.includeDistributedSak = true := by
  obtain ⟨rnd, frameMaxLen, input, ok, scan⟩ := carries
  change call = _ at input
  subst input
  change (buildTxFrame aes ctx rnd frameMaxLen).1 = .ok at ok
  change scanDistributedSak aes ctx.crypto
    (buildTxFrame aes ctx rnd frameMaxLen).2.2.1 = .ok found at scan
  change found.Describes
      (buildTxFrame aes ctx rnd frameMaxLen).2.1.latestSak ∧
    (buildTxFrame aes ctx rnd frameMaxLen).2.1.includeDistributedSak = true
  rcases @buildTxFrame_cases aes ctx inv keyed rnd frameMaxLen with
    ⟨failed, -⟩ | ⟨-, -, -, frame, built, result⟩
  · exact absurd ok failed
  · have shape := (Participant.ensureForTx_keeps inv rnd).inv.latest
    rw [result] at scan ⊢
    rw [scanDistributedSak_buildFrame keyed shape built] at scan
    exact describes_of_offeredSak scan

/-- A SAK in a returned MKPDU was generated by its sender. -/
theorem origin_of_included {sender : Participant}
    (included : sender.includeDistributedSak = true) :
    sender.latestSak.origin = .localKeyServer := by
  simp only [Participant.includeDistributedSak, Bool.and_eq_true,
    beq_iff_eq] at included
  exact included.1.2

/-! ## Key numbers -/

/-- What holds between the SAKs that were sent and a Key Server: a number that
is not used up belongs to the SAK that waits for its distribution, and a number
identifies a SAK. -/
structure Numbers (sent : DistributedSak → Prop) (ctx : Participant) :
    Prop where
  pending : ctx.latestSak.lifecycleState = .distributionPending →
    ctx.latestSak.keyNumber = ctx.keyServerNextKeyNumber
  issued : ctx.latestSak.origin = .localKeyServer →
    ctx.latestSak.lifecycleState ≠ .distributionPending →
      ctx.latestSak.keyNumber.toNat < ctx.keyServerNextKeyNumber.toNat
  bounded : ∀ found, sent found →
    found.keyNumber.toNat ≤ ctx.keyServerNextKeyNumber.toNat
  reserved : ∀ found, sent found →
    found.keyNumber = ctx.keyServerNextKeyNumber →
      ctx.latestSak.lifecycleState = .distributionPending
  current : ∀ found, sent found → ctx.latestSak.origin = .localKeyServer →
    found.keyNumber = ctx.latestSak.keyNumber →
      found.Describes ctx.latestSak
  identified : ∀ found other, sent found → sent other →
    found.keyNumber = other.keyNumber →
      found.sak = other.sak ∧ found.an = other.an

namespace Numbers

variable {sent : DistributedSak → Prop} {ctx after : Participant}

/-- Sending the latest SAK is compatible with the numbers. -/
theorem send (numbers : Numbers sent ctx) {new : DistributedSak → Prop}
    (latest : ∀ found, new found →
      found.Describes ctx.latestSak ∧
        ctx.latestSak.origin = .localKeyServer) :
    Numbers (fun found => sent found ∨ new found) ctx where
  pending := numbers.pending
  issued := numbers.issued
  bounded := by
    rintro found (old | isNew)
    · exact numbers.bounded found old
    · obtain ⟨describes, origin⟩ := latest found isNew
      rw [describes.keyNumber]
      by_cases pending :
          ctx.latestSak.lifecycleState = .distributionPending
      · rw [numbers.pending pending]
      · exact Nat.le_of_lt (numbers.issued origin pending)
  reserved := by
    rintro found (old | isNew) next
    · exact numbers.reserved found old next
    · obtain ⟨describes, origin⟩ := latest found isNew
      by_contra issued
      have below := numbers.issued origin issued
      rw [← describes.keyNumber, next] at below
      exact Nat.lt_irrefl _ below
  current := by
    rintro found (old | isNew) origin same
    · exact numbers.current found old origin same
    · exact (latest found isNew).1
  identified := by
    rintro found other (old | isNew) (oldOther | isNewOther) same
    · exact numbers.identified found other old oldOther same
    · obtain ⟨describes, origin⟩ := latest other isNewOther
      rw [describes.keyNumber] at same
      have describes' := numbers.current found old origin same
      rw [describes.sak, describes.an]
      exact ⟨describes'.sak, describes'.an⟩
    · obtain ⟨describes, origin⟩ := latest found isNew
      rw [describes.keyNumber] at same
      have describes' := numbers.current other oldOther origin same.symm
      rw [describes.sak, describes.an]
      exact ⟨describes'.sak.symm, describes'.an.symm⟩
    · have describes := (latest found isNew).1
      have describes' := (latest other isNewOther).1
      rw [describes.sak, describes.an, describes'.sak, describes'.an]
      exact ⟨rfl, rfl⟩

/-- A latest SAK with the same key, number and origin keeps the numbers. -/
theorem keep (numbers : Numbers sent ctx)
    (next : after.keyServerNextKeyNumber = ctx.keyServerNextKeyNumber)
    (sak : after.latestSak.sak = ctx.latestSak.sak)
    (keyNumber : after.latestSak.keyNumber = ctx.latestSak.keyNumber)
    (an : after.latestSak.an = ctx.latestSak.an)
    (origin : after.latestSak.origin = ctx.latestSak.origin)
    (waits : after.latestSak.lifecycleState = .distributionPending ↔
      ctx.latestSak.lifecycleState = .distributionPending) :
    Numbers sent after where
  pending pending := by
    rw [keyNumber, next]
    exact numbers.pending (waits.mp pending)
  issued own issued := by
    rw [keyNumber, next]
    exact numbers.issued (origin ▸ own) (mt waits.mpr issued)
  bounded found isSent := by
    rw [next]
    exact numbers.bounded found isSent
  reserved found isSent same :=
    waits.mpr (numbers.reserved found isSent (next ▸ same))
  current found isSent own same := by
    have describes :=
      numbers.current found isSent (origin ▸ own) (keyNumber ▸ same)
    exact ⟨describes.sak.trans sak.symm,
      describes.keyNumber.trans keyNumber.symm, describes.an.trans an.symm⟩
  identified := numbers.identified

/-- A latest SAK that was not sent keeps the numbers if it is a foreign one or
takes the next number, and the next number was not sent. -/
theorem replace (numbers : Numbers sent ctx)
    (unsent : ∀ found, sent found →
      found.keyNumber ≠ ctx.keyServerNextKeyNumber)
    (next : after.keyServerNextKeyNumber = ctx.keyServerNextKeyNumber)
    (latest : (after.latestSak.lifecycleState ≠ .distributionPending ∧
        after.latestSak.origin ≠ .localKeyServer) ∨
      ∃ rnd, after.latestSak = ctx.pendingSak rnd) :
    Numbers sent after where
  pending pending := by
    rw [next]
    rcases latest with ⟨other, -⟩ | ⟨rnd, latest⟩
    · exact absurd pending other
    · rw [latest]
      rfl
  issued own issued := by
    rcases latest with ⟨-, other⟩ | ⟨rnd, latest⟩
    · exact absurd own other
    · rw [latest] at issued
      exact absurd rfl issued
  bounded found isSent := by
    rw [next]
    exact numbers.bounded found isSent
  reserved found isSent same := absurd (next ▸ same) (unsent found isSent)
  current found isSent own same := by
    rcases latest with ⟨-, other⟩ | ⟨rnd, latest⟩
    · exact absurd own other
    · rw [latest] at same
      exact absurd same (unsent found isSent)
  identified := numbers.identified

/-- The next number was not sent unless the SAK that waits for its distribution
was. -/
theorem unsent (numbers : Numbers sent ctx)
    (kept : ctx.latestSak.lifecycleState = .distributionPending →
      ∀ found, sent found → ¬found.Describes ctx.latestSak)
    (shape : LatestShape ctx.latestSak) (found : DistributedSak)
    (isSent : sent found) :
    found.keyNumber ≠ ctx.keyServerNextKeyNumber := by
  intro next
  have pending := numbers.reserved found isSent next
  have own : ctx.latestSak.origin = .localKeyServer := by
    rw [LatestShape, pending] at shape
    exact shape.2.1
  exact kept pending found isSent
    (numbers.current found isSent own
      (next.trans (numbers.pending pending).symm))

/-- Committing the pending SAK uses up its number. -/
theorem commit (numbers : Numbers sent ctx)
    (pending : ctx.latestSak.lifecycleState = .distributionPending)
    (room : ctx.keyServerNextKeyNumber.toNat + 1 < 2 ^ 32)
    (txMeta : TxMeta) (nowMs : UInt32) :
    Numbers sent (ctx.committed.sent txMeta nowMs) := by
  have next :
      (ctx.committed.sent txMeta nowMs).keyServerNextKeyNumber.toNat =
        ctx.keyServerNextKeyNumber.toNat + 1 := by
    have sum :
        (ctx.keyServerNextKeyNumber + 1).toNat =
          ctx.keyServerNextKeyNumber.toNat + 1 := by
      rw [UInt32.toNat_add]
      exact Nat.mod_eq_of_lt room
    change (if ctx.keyServerNextKeyNumber + 1 = 0 then 1
      else ctx.keyServerNextKeyNumber + 1).toNat = _
    rw [if_neg, sum]
    intro wrapped
    rw [wrapped] at sum
    exact absurd sum (Nat.succ_ne_zero _).symm
  refine ⟨fun waits => SakState.noConfusion waits, fun _ _ => ?_,
    fun found isSent => ?_, fun found isSent same => ?_,
    fun found isSent own same => ?_, numbers.identified⟩
  · rw [next]
    change ctx.latestSak.keyNumber.toNat < _
    rw [numbers.pending pending]
    exact Nat.lt_succ_self _
  · rw [next]
    exact Nat.le_succ_of_le (numbers.bounded found isSent)
  · have bound := numbers.bounded found isSent
    rw [same, next] at bound
    omega
  · have describes := numbers.current found isSent own same
    exact ⟨describes.sak, describes.keyNumber, describes.an⟩

end Numbers

/-- A SAK is distributed: its first transmission is reported. -/
def Distribution (event : Transition.Event Ctx Call Err) : Prop :=
  event.before.latestSak.lifecycleState = .distributionPending ∧
    event.after.latestSak.lifecycleState = .distributed

instance : DecidablePred Distribution := fun _ =>
  inferInstanceAs (Decidable (_ ∧ _))

/-- A SAK that was sent and waits for the report on its distribution is not
displaced. -/
def KeepsPending (aes : BlockCipher)
    (past : List (Transition.Event Ctx Call Err))
    (event : Transition.Event Ctx Call Err) : Prop :=
  ∀ frame rnd nowMs pdu,
    event.input = .input frame rnd nowMs →
      classify aes event.before frame = .accepted pdu →
        event.before.latestSak.lifecycleState = .distributionPending →
          (∃ found, Sent aes past found ∧
            found.Describes event.before.latestSak) →
            ¬event.before.Displaces pdu

/-- A move keeps the numbers if it does not displace a SAK that was sent and
waits for the report on its distribution. -/
theorem Numbers.move {past : List (Transition.Event Ctx Call Err)}
    {call : Call} {after : Participant} (inv : ctx.toParticipant.Inv)
    (numbers : Numbers (Sent aes past) ctx.toParticipant)
    (move : Move aes ctx call after)
    (keeps : KeepsPending aes past ((machine aes).event ctx call))
    (room : ctx.latestSak.lifecycleState = .distributionPending →
      after.latestSak.lifecycleState = .distributed →
        ctx.keyServerNextKeyNumber.toNat + 1 < 2 ^ 32) :
    Numbers (Sent aes past) after := by
  cases move with
  | @receive frame rnd nowMs pdu accepted =>
      have kept := keeps frame rnd nowMs pdu rfl accepted
      change ctx.latestSak.lifecycleState = _ → _ →
        ¬ctx.toParticipant.Displaces pdu at kept
      have same : (ctx.toParticipant.processMkpdu pdu rnd
          nowMs).2.keyServerNextKeyNumber = ctx.keyServerNextKeyNumber :=
        congrArg Prod.fst
          (ctx.toParticipant.processMkpdu_counters inv pdu rnd nowMs)
      rcases ctx.toParticipant.processMkpdu_slots inv pdu rnd nowMs with
        ⟨stays, -⟩ | ⟨displaces, sak, enters, slots⟩
      · obtain ⟨sak, keyNumber, an, origin, waits⟩ :=
          Participant.processMkpdu_keeps_number inv stays rnd nowMs
        exact numbers.keep same sak keyNumber an origin waits
      · have latest := congrArg Slots.latest slots
        change (ctx.toParticipant.processMkpdu pdu rnd nowMs).2.latestSak =
          sak at latest
        have unsent := numbers.unsent
          (fun pending found isSent describes =>
            kept pending ⟨found, isSent, describes⟩ displaces)
          inv.latest
        refine numbers.replace unsent same ?_
        rw [latest]
        cases enters with
        | adopted =>
            exact Or.inl ⟨SakState.noConfusion, SakOrigin.noConfusion⟩
        | generated => exact Or.inr ⟨rnd, rfl⟩
        | dropped =>
            exact Or.inl ⟨SakState.noConfusion, SakOrigin.noConfusion⟩
  | @generate rnd frameMaxLen after absent latest counters peer =>
      have unsent := numbers.unsent
        (fun pending => by
          rw [absent] at pending
          exact SakState.noConfusion pending)
        inv.latest
      exact numbers.replace unsent (congrArg Prod.fst counters)
        (Or.inr ⟨rnd, latest⟩)
  | commit pending =>
      exact numbers.commit pending (room pending rfl) _ _
  | advance latest due installing counters peer =>
      have issued :
          ctx.latestSak.lifecycleState ≠ .distributionPending := by
        rcases due with lifecycle | lifecycle | lifecycle
        all_goals
          rw [lifecycle]
          exact SakState.noConfusion
      have installs :
          after.latestSak.lifecycleState ≠ .distributionPending := by
        rcases installing with lifecycle | lifecycle | lifecycle
        all_goals
          rw [lifecycle]
          exact SakState.noConfusion
      exact numbers.keep (congrArg Prod.fst counters) (by rw [latest])
        (by rw [latest]) (by rw [latest]) (by rw [latest])
        ⟨fun waits => absurd waits installs, fun waits => absurd waits issued⟩
  | rest latest counters peer =>
      exact numbers.keep (congrArg Prod.fst counters) (by rw [latest])
        (by rw [latest]) (by rw [latest]) (by rw [latest]) (by rw [latest])

/-- The next key number advances with distributions only. -/
theorem nextKeyNumber_of_move {call : Call} {after : Participant}
    (inv : ctx.toParticipant.Inv) (move : Move aes ctx call after) :
    after.keyServerNextKeyNumber = ctx.keyServerNextKeyNumber ∨
      (ctx.latestSak.lifecycleState = .distributionPending ∧
        after.latestSak.lifecycleState = .distributed ∧
        after.keyServerNextKeyNumber.toNat ≤
          ctx.keyServerNextKeyNumber.toNat + 1) := by
  cases move with
  | @receive frame rnd nowMs pdu accepted =>
      exact Or.inl (congrArg Prod.fst
        (ctx.toParticipant.processMkpdu_counters inv pdu rnd nowMs))
  | generate absent latest counters peer =>
      exact Or.inl (congrArg Prod.fst counters)
  | commit pending =>
      refine Or.inr ⟨pending, rfl, ?_⟩
      change (if ctx.keyServerNextKeyNumber + 1 = 0 then 1
        else ctx.keyServerNextKeyNumber + 1).toNat ≤ _
      split
      next => exact Nat.le_add_left 1 _
      next =>
          rw [UInt32.toNat_add]
          exact Nat.mod_le _ _
  | advance latest due installing counters peer =>
      exact Or.inl (congrArg Prod.fst counters)
  | rest latest counters peer => exact Or.inl (congrArg Prod.fst counters)

/-- The numbers of an initialised participant. -/
theorem numbers_initialCtx (aes : BlockCipher) (cak ckn : Bytes)
    (localMac : Octets 6) (portId : UInt16) (priority : UInt8)
    (interval : UInt32) (mi : Octets 12) :
    Numbers (Sent aes [])
      (initialCtx aes cak ckn localMac portId priority interval
        mi).toParticipant := by
  have unsent (found : DistributedSak) : ¬Sent aes [] found :=
    fun ⟨event, member, _⟩ => absurd member List.not_mem_nil
  change Numbers _
    (Participant.start localMac portId priority interval mi).completeInit
  rw [completeInit_eq]
  exact
    { pending := fun pending => SakState.noConfusion pending
      issued := fun own => SakOrigin.noConfusion own
      bounded := fun found isSent => absurd isSent (unsent found)
      reserved := fun found isSent => absurd isSent (unsent found)
      current := fun found isSent => absurd isSent (unsent found)
      identified := fun found _ isSent => absurd isSent (unsent found) }

/-- What a run maintains about its key numbers. -/
structure Numbered (aes : BlockCipher)
    (past : List (Transition.Event Ctx Call Err)) (ctx : Ctx) : Prop where
  inv : ctx.toParticipant.Inv
  keyed : ctx.crypto.Keyed
  numbers : Numbers (Sent aes past) ctx.toParticipant
  advanced : ctx.keyServerNextKeyNumber.toNat ≤ past.countP Distribution + 1

/-- A call keeps the key numbers of a run, as long as they do not wrap. -/
theorem Numbered.perform {past : List (Transition.Event Ctx Call Err)}
    (numbered : Numbered aes past ctx) (call : Call)
    (keeps : KeepsPending aes past ((machine aes).event ctx call))
    (few : (past ++ [(machine aes).event ctx call]).countP Distribution <
      2 ^ 32 - 1) :
    Numbered aes (past ++ [(machine aes).event ctx call])
      (Mka.perform aes ctx call).1 := by
  have move := @perform_move aes ctx numbered.inv call
  have advanced := numbered.advanced
  have counted :
      ctx.latestSak.lifecycleState = .distributionPending →
        (Mka.perform aes ctx call).1.latestSak.lifecycleState =
            .distributed →
          (past ++ [(machine aes).event ctx call]).countP Distribution =
            past.countP Distribution + 1 := by
    intro pending distributed
    have distribution : Distribution ((machine aes).event ctx call) :=
      ⟨pending, distributed⟩
    rw [List.countP_append, List.countP_singleton,
      if_pos (decide_eq_true distribution)]
  have numbers := numbered.numbers.move numbered.inv move keeps
    fun pending distributed => by
      have more := counted pending distributed
      omega
  refine ⟨perform_inv numbered.inv call, ?_, ?_, ?_⟩
  · rw [(@perform_keys aes ctx call).1]
    exact numbered.keyed
  · rw [sent_concat]
    exact numbers.send fun found carries =>
      have latest := latest_of_carries numbered.inv numbered.keyed carries
      ⟨latest.1, origin_of_included latest.2⟩
  · rcases nextKeyNumber_of_move numbered.inv move with
      same | ⟨pending, distributed, next⟩
    · rw [same, List.countP_append]
      omega
    · have more := counted pending distributed
      omega

/-- In every run of a participant in which the key numbers do not wrap and no
SAK is displaced between an MKPDU with it and the report on its transmission,
a key number identifies one SAK. -/
theorem keyNumber_identifies_sak
    (aes : BlockCipher) (cak ckn : Bytes) (localMac : Octets 6)
    (portId : UInt16) (priority : UInt8) (interval : UInt32) (mi : Octets 12)
    (start : Ctx)
    (initialised :
      init aes cak ckn localMac portId priority interval mi = (.ok, start))
    (calls : List Call)
    (few : ((machine aes).events start calls).countP Distribution <
      2 ^ 32 - 1)
    (keeps : Transition.Guarded (KeepsPending aes)
      ((machine aes).events start calls))
    (first second : Transition.Event Ctx Call Err)
    (firstPast : first ∈ (machine aes).events start calls)
    (secondPast : second ∈ (machine aes).events start calls)
    (found other : DistributedSak)
    (firstCarries : Carries aes first found)
    (secondCarries : Carries aes second other)
    (same : found.keyNumber = other.keyNumber) :
    found.sak = other.sak ∧ found.an = other.an := by
  have numbered :
      ((machine aes).events start calls).countP Distribution < 2 ^ 32 - 1 →
        Numbered aes ((machine aes).events start calls)
          ((machine aes).final start calls) := by
    refine @Transition.Machine.historyInvariant _ _ _ (machine aes) _
      (fun past ctx =>
        past.countP Distribution < 2 ^ 32 - 1 → Numbered aes past ctx)
      start ?_ ?_ calls keeps
    · intro _
      obtain ⟨rfl, keyed⟩ := init_ok initialised
      exact ⟨(resting_completeInit localMac portId priority interval mi).inv,
        keyed, numbers_initialCtx _ _ _ _ _ _ _ _, Nat.le_refl 1⟩
    · intro past ctx call numbered kept room
      have before : past.countP Distribution < 2 ^ 32 - 1 := by
        rw [List.countP_append] at room
        omega
      exact (numbered before).perform call kept room
  exact (numbered few).numbers.identified found other
    ⟨first, firstPast, firstCarries⟩ ⟨second, secondPast, secondCarries⟩ same

/-! ## Sending by script -/

/-- A SAK that is offered after an entry that builds a frame was sent. -/
theorem Plays.sent {crypto : MkaCrypto.Ctx} {state : Participant}
    (plays : Plays crypto ctx state) (cues : List Cue) (rnd : Octets 16)
    (later : List Cue)
    (playable : ∀ event ∈
      (stage crypto.psk.ckn).events state (cues ++ [.build rnd]),
        event.input.Playable event.before)
    {found : DistributedSak}
    (offered : ((stage crypto.psk.ckn).final state
      (cues ++ [.build rnd])).offeredSak = .ok found) :
    Sent aes
      ((machine aes).events ctx
        ((cues ++ Cue.build rnd :: later).map (Cue.call aes crypto))) found := by
  rw [Transition.Machine.events_append, List.forall_mem_append] at playable
  rw [Transition.Machine.final_append] at offered
  have reached := @Plays.final aes _ _ _ plays cues playable.1
  have last := playable.2 _ (List.mem_singleton.mpr rfl)
  rw [List.map_append, Transition.Machine.events_append]
  generalize (machine aes).final ctx (cues.map (Cue.call aes crypto)) = ctx
    at reached ⊢
  generalize (stage crypto.psk.ckn).final state cues = state
    at reached last offered
  obtain ⟨frame, built, result⟩ := @Plays.build aes _ _ _ reached rnd last
  obtain ⟨keyed, rfl, verifying, inv, rfl⟩ := reached
  refine ⟨_, List.mem_append_right _ List.mem_cons_self, rnd, maxFrameLen, rfl,
    ?_⟩
  have shape := (Participant.ensureForTx_keeps inv rnd).inv.latest
  change (buildTxFrame aes ctx rnd maxFrameLen).1 = .ok ∧
    scanDistributedSak aes ctx.crypto
      (buildTxFrame aes ctx rnd maxFrameLen).2.2.1 = .ok found
  rw [result]
  exact ⟨rfl, (scanDistributedSak_buildFrame keyed shape built).trans offered⟩

/-- A SAK that a station offers after it built a frame was sent. -/
theorem station_sent (aes : BlockCipher)
    {station priority incarnation : UInt8} (cues : List Cue) (rnd : Octets 16)
    (later : List Cue)
    (playable : ∀ event ∈
      (stage stationCkn).events (newcomer station priority incarnation)
        (cues ++ [.build rnd]), event.input.Playable event.before)
    {found : DistributedSak}
    (offered : ((stage stationCkn).final
      (newcomer station priority incarnation)
      (cues ++ [.build rnd])).offeredSak = .ok found) :
    Sent aes
      ((machine aes).events (stationCtx aes station priority incarnation)
        ((cues ++ Cue.build rnd :: later).map
          (Cue.call aes (MkaCrypto.keysOf aes stationCak stationCkn))))
      found := by
  rw [← ckn_stations aes] at playable offered
  exact
    Plays.sent (plays_stationCtx aes station priority incarnation) cues rnd
      later playable offered

/-- A run distributes no more SAKs than it has calls. -/
theorem countP_distribution_le (ctx : Ctx) (calls : List Call) :
    ((machine aes).events ctx calls).countP Distribution ≤ calls.length := by
  refine List.countP_le_length.trans (Nat.le_of_eq ?_)
  induction calls generalizing ctx with
  | nil => rfl
  | cons call calls inductionHypothesis =>
      exact congrArg Nat.succ (inductionHypothesis _)

/-- The SAK that station 1 generates first, from the given octets. -/
def firstSak (octet : UInt8) : DistributedSak where
  an := 0
  keyNumber := 1
  sak := (sakOctets octet).1
  keyNumberNonzero := by decide
  sakLen := by rw [(sakOctets octet).2]; rfl

/-- Station 1 hears its peer and builds two frames. -/
def courtship : List Cue :=
  [.hear admirer (sakOctets 1) 5, .build (sakOctets 2), .build (sakOctets 3)]

/-- Both frames carry the same SAK. -/
theorem courtship_sends_one_sak :
    let events :=
      (machine BlockCipher.null).events (stationCtx BlockCipher.null 1 10 11)
        (courtship.map (Cue.call BlockCipher.null
          (MkaCrypto.keysOf BlockCipher.null stationCak stationCkn)))
    ∃ first ∈ events, ∃ second ∈ events, ∃ found other,
      Carries BlockCipher.null first found ∧
        Carries BlockCipher.null second other ∧
          found.sak = other.sak ∧ found.an = other.an := by
  have plays := plays_stationCtx BlockCipher.null 1 10 11
  have early :=
    @station_sent BlockCipher.null 1 10 11 [.hear admirer (sakOctets 1) 5]
      (sakOctets 2) [.build (sakOctets 3)] (by decide) (firstSak 2) (by decide)
  have late :=
    @station_sent BlockCipher.null 1 10 11
      [.hear admirer (sakOctets 1) 5, .build (sakOctets 2)] (sakOctets 3) []
      (by decide) (firstSak 2) (by decide)
  obtain ⟨first, firstPast, firstCarries⟩ := early
  obtain ⟨second, secondPast, secondCarries⟩ := late
  refine ⟨first, firstPast, second, secondPast, firstSak 2, firstSak 2,
    firstCarries, secondCarries, ?_⟩
  refine keyNumber_identifies_sak BlockCipher.null stationCak stationCkn
    (stationMac 1) 1 10 2000 (memberId 11) _
    (init_eq BlockCipher.null rfl (by decide) (by decide) _ _ _ _ _).1 _
    (Nat.lt_of_le_of_lt (countP_distribution_le _ _) (by decide)) ?_ _ _
    firstPast secondPast _ _ firstCarries secondCarries rfl
  refine ((Transition.Guarded.nil.concat ?_).concat ?_).concat ?_
  · intro frame rnd nowMs pdu input accepted pending
    change (stationCtx _ 1 10 11).toParticipant.latestSak.lifecycleState = _
      at pending
    rw [plays.same] at pending
    exact absurd pending (by decide)
  · exact fun frame rnd nowMs pdu input => Call.noConfusion input
  · exact fun frame rnd nowMs pdu input => Call.noConfusion input

/-- Station 1 hears its peer and builds a frame; then the peer restarts, and
station 1 builds another frame once it is recognised again. -/
def relapse : List Cue :=
  [.hear admirer (sakOctets 1) 5, .build (sakOctets 2),
    .hear (newcomer 2 20 13) (sakOctets 3) 6,
    .hear ((newcomer 2 20 13).listing (newcomer 1 10 11)) (sakOctets 4) 7,
    .build (sakOctets 5)]

/-- Under no cipher does a key number identify one SAK. -/
theorem not_forall_keyNumber_identifies_sak :
    ¬∃ aes, ∀ (cak ckn : Bytes) (localMac : Octets 6) (portId : UInt16)
      (priority : UInt8) (interval : UInt32) (mi : Octets 12) (start : Ctx)
      (calls : List Call),
        init aes cak ckn localMac portId priority interval mi =
            (.ok, start) →
          ((machine aes).events start calls).countP Distribution <
              2 ^ 32 - 1 →
            ∀ first ∈ (machine aes).events start calls,
              ∀ second ∈ (machine aes).events start calls,
                ∀ found other, Carries aes first found →
                  Carries aes second other →
                    found.keyNumber = other.keyNumber →
                      found.sak = other.sak ∧ found.an = other.an := by
  rintro ⟨aes, alwaysIdentified⟩
  have early :=
    @station_sent aes 1 10 11 [.hear admirer (sakOctets 1) 5] (sakOctets 2)
      (relapse.drop 2) (by decide) (firstSak 2) (by decide)
  have late :=
    @station_sent aes 1 10 11 (relapse.take 4) (sakOctets 5) [] (by decide)
      (firstSak 5) (by decide)
  obtain ⟨first, firstPast, firstCarries⟩ := early
  obtain ⟨second, secondPast, secondCarries⟩ := late
  have same :=
    alwaysIdentified stationCak stationCkn (stationMac 1) 1 10 2000
      (memberId 11) _ _
      (init_eq aes rfl (by decide) (by decide) _ _ _ _ _).1
      (Nat.lt_of_le_of_lt (countP_distribution_le _ _)
        (by rw [List.length_map]; decide))
      first firstPast second secondPast _ _ firstCarries secondCarries rfl
  exact absurd same.1 (by decide)

end Mka

end Macsec
