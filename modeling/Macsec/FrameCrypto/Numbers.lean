import Macsec.FrameCrypto.Runs

/-!
# Packet numbers of the transmit association

As long as no key is installed for transmission twice, no packet number is sent
twice under a key.  The numbers under a key are consecutive, and none is sent
after the last one.
-/

namespace Macsec

namespace FrameCrypto

variable {aes : BlockCipher} {ctx : Ctx}

/-! ## Installed keys and sent numbers -/

/-- The association that a step installs for transmission. -/
def installedSak (event : Event) : Option Sak :=
  match event.input with
  | .setTxSak sak => if event.output.1 = .ok then some sak else none
  | _ => none

/-- The associations a run installed for transmission, in their order. -/
def installed (events : List Event) : List Sak :=
  events.filterMap installedSak

/-- The key and the packet number of the frame that a step protects. -/
def sentFrame (event : Event) : Option (Bytes × UInt32) :=
  match event.input with
  | .encrypt _ _ =>
      if event.output.1 = .ok then
        some (event.before.txSak.key, framePn event.output.2)
      else
        none
  | _ => none

/-- The keys and packet numbers of the frames a run protected, in their
order. -/
def sent (events : List Event) : List (Bytes × UInt32) :=
  events.filterMap sentFrame

/-- The packet numbers among them that belong to a key. -/
def numbersUnder (key : Bytes) (frames : List (Bytes × UInt32)) : List Nat :=
  (frames.filter fun frame => frame.1 == key).map fun frame => frame.2.toNat

/-- The first packet number of an association. -/
def firstPn (sak : Sak) : Nat :=
  if sak.nextPn = 0 then 1 else sak.nextPn.toNat

/-- The packet number an association has come to, one behind the last number
when it is exhausted. -/
def reachedPn (nextPn : UInt32) : Nat :=
  if nextPn = 0 then 2 ^ 32 else nextPn.toNat

theorem installed_concat (events : List Event) (event : Event) :
    installed (events ++ [event]) =
      installed events ++ (installedSak event).toList := by
  unfold installed
  rw [List.filterMap_append]
  cases result : installedSak event with
  | none => simp [result]
  | some sak => simp [result]

theorem sent_concat (events : List Event) (event : Event) :
    sent (events ++ [event]) = sent events ++ (sentFrame event).toList := by
  unfold sent
  rw [List.filterMap_append]
  cases result : sentFrame event with
  | none => simp [result]
  | some frame => simp [result]

theorem numbersUnder_concat_self (key : Bytes) (pn : UInt32)
    (frames : List (Bytes × UInt32)) :
    numbersUnder key (frames ++ [(key, pn)]) =
      numbersUnder key frames ++ [pn.toNat] := by
  simp [numbersUnder]

theorem numbersUnder_concat_of_ne {key other : Bytes} (differ : other ≠ key)
    (pn : UInt32) (frames : List (Bytes × UInt32)) :
    numbersUnder key (frames ++ [(other, pn)]) = numbersUnder key frames := by
  simp [numbersUnder, differ]

theorem mem_numbersUnder {key : Bytes} {pn : UInt32}
    {frames : List (Bytes × UInt32)} (member : (key, pn) ∈ frames) :
    pn.toNat ∈ numbersUnder key frames := by
  unfold numbersUnder
  rw [List.mem_map]
  exact ⟨(key, pn), by simp [member], rfl⟩

/-- Keys under which nothing was sent have no numbers. -/
theorem numbersUnder_eq_nil {key : Bytes} {frames : List (Bytes × UInt32)}
    (unused : ∀ frame ∈ frames, frame.1 ≠ key) :
    numbersUnder key frames = [] := by
  unfold numbersUnder
  rw [List.map_eq_nil_iff, List.filter_eq_nil_iff]
  intro frame member
  simpa using unused frame member

theorem reachedPn_followingPn {pn : UInt32} (nonzero : pn ≠ 0) :
    reachedPn (followingPn pn) = reachedPn pn + 1 := by
  unfold reachedPn followingPn
  rw [if_neg nonzero]
  by_cases last : pn = 0xFFFFFFFF
  · rw [if_pos last, if_pos rfl, last]
    rfl
  · have small := pn.toNat_lt
    have next : (pn + 1).toNat = pn.toNat + 1 := by
      have notLast : pn.toNat ≠ 0xFFFFFFFF :=
        fun same => last (UInt32.toNat_inj.mp same)
      rw [UInt32.toNat_add]
      exact Nat.mod_eq_of_lt (by change pn.toNat + 1 < _; omega)
    rw [if_neg last, if_neg, next]
    intro zero
    rw [zero] at next
    exact absurd next (by simp)

/-! ## The invariant -/

/-- The numbers a run has sent fit the association in use. -/
structure Numbered (past : List Event) (ctx : Ctx) : Prop where
  distinct : (sent past).Nodup
  installs : ∀ frame ∈ sent past, ∃ sak ∈ installed past, sak.key = frame.1
  nonzero : ∀ frame ∈ sent past, frame.2 ≠ 0
  consecutive : ∀ sak ∈ installed past, ∃ count,
    numbersUnder sak.key (sent past) = List.range' (firstPn sak) count
  current : ctx.txSak.valid = true → ∃ sak ∈ installed past,
    sak.key = ctx.txSak.key ∧
      firstPn sak + (numbersUnder sak.key (sent past)).length =
        reachedPn ctx.txSak.nextPn

variable {past : List Event} {event : Event}

/-- A step that neither installs an association nor protects a frame keeps the
invariant. -/
theorem Numbered.idle (numbered : Numbered past ctx) {after : Ctx}
    (installsNone : installedSak event = none)
    (sendsNone : sentFrame event = none)
    (same : after.txSak.valid = true → after.txSak = ctx.txSak) :
    Numbered (past ++ [event]) after := by
  have sameInstalled : installed (past ++ [event]) = installed past := by
    rw [installed_concat, installsNone]
    exact List.append_nil _
  have sameSent : sent (past ++ [event]) = sent past := by
    rw [sent_concat, sendsNone]
    exact List.append_nil _
  refine ⟨?_, ?_, ?_, ?_, ?_⟩
  · rw [sameSent]
    exact numbered.distinct
  · rw [sameSent, sameInstalled]
    exact numbered.installs
  · rw [sameSent]
    exact numbered.nonzero
  · rw [sameSent, sameInstalled]
    exact numbered.consecutive
  · intro valid
    have kept := same valid
    rw [kept] at valid
    rw [sameSent, sameInstalled, kept]
    exact numbered.current valid

/-- The installation of a key that was not installed before keeps the
invariant. -/
theorem Numbered.install (numbered : Numbered past ctx) {after : Ctx}
    {sak : Sak} (installs : installedSak event = some sak)
    (sendsNone : sentFrame event = none)
    (fresh : ((installed (past ++ [event])).map Sak.key).Nodup)
    (sameKey : after.txSak.key = sak.key)
    (start : reachedPn after.txSak.nextPn = firstPn sak) :
    Numbered (past ++ [event]) after := by
  have nowInstalled :
      installed (past ++ [event]) = installed past ++ [sak] := by
    rw [installed_concat, installs]
    rfl
  have sameSent : sent (past ++ [event]) = sent past := by
    rw [sent_concat, sendsNone]
    exact List.append_nil _
  rw [nowInstalled, List.map_append, List.nodup_append] at fresh
  have unsent : numbersUnder sak.key (sent past) = [] := by
    apply numbersUnder_eq_nil
    intro frame member same
    obtain ⟨earlier, known, key⟩ := numbered.installs frame member
    exact fresh.2.2 earlier.key (List.mem_map_of_mem known) sak.key (by simp)
      (key.trans same)
  refine ⟨?_, ?_, ?_, ?_, ?_⟩
  · rw [sameSent]
    exact numbered.distinct
  · rw [sameSent, nowInstalled]
    intro frame member
    obtain ⟨earlier, known, key⟩ := numbered.installs frame member
    exact ⟨earlier, List.mem_append_left _ known, key⟩
  · rw [sameSent]
    exact numbered.nonzero
  · rw [sameSent, nowInstalled]
    intro other member
    rcases List.mem_append.mp member with known | new
    · exact numbered.consecutive other known
    · rw [List.mem_singleton.mp new, unsent]
      exact ⟨0, rfl⟩
  · intro _
    rw [sameSent, nowInstalled]
    refine ⟨sak, List.mem_append_right _ List.mem_cons_self, sameKey.symm, ?_⟩
    rw [unsent, start]
    rfl

/-- A protected frame keeps the invariant. -/
theorem Numbered.send (numbered : Numbered past ctx) {after : Ctx}
    (installsNone : installedSak event = none)
    (sends : sentFrame event = some (ctx.txSak.key, ctx.txSak.nextPn))
    (fresh : ((installed past).map Sak.key).Nodup)
    (valid : ctx.txSak.valid = true) (nonzero : ctx.txSak.nextPn ≠ 0)
    (same : after.txSak =
      { ctx.txSak with nextPn := followingPn ctx.txSak.nextPn }) :
    Numbered (past ++ [event]) after := by
  have sameInstalled : installed (past ++ [event]) = installed past := by
    rw [installed_concat, installsNone]
    exact List.append_nil _
  have nowSent :
      sent (past ++ [event]) =
        sent past ++ [(ctx.txSak.key, ctx.txSak.nextPn)] := by
    rw [sent_concat, sends]
    rfl
  obtain ⟨sak, known, key, count⟩ := numbered.current valid
  obtain ⟨length, numbers⟩ := numbered.consecutive sak known
  have reached : reachedPn ctx.txSak.nextPn = ctx.txSak.nextPn.toNat :=
    if_neg nonzero
  rw [numbers, List.length_range', reached] at count
  refine ⟨?_, ?_, ?_, ?_, ?_⟩
  · rw [nowSent, List.nodup_append]
    refine ⟨numbered.distinct, List.nodup_singleton _, ?_⟩
    rintro frame member _ repeated rfl
    rw [List.mem_singleton.mp repeated, ← key] at member
    have inside := mem_numbersUnder member
    rw [numbers, List.mem_range'_1] at inside
    omega
  · rw [nowSent, sameInstalled]
    intro frame member
    rcases List.mem_append.mp member with earlier | now
    · exact numbered.installs frame earlier
    · rw [List.mem_singleton.mp now]
      exact ⟨sak, known, key⟩
  · rw [nowSent]
    intro frame member
    rcases List.mem_append.mp member with earlier | now
    · exact numbered.nonzero frame earlier
    · rw [List.mem_singleton.mp now]
      exact nonzero
  · rw [nowSent, sameInstalled]
    intro other member
    by_cases sameKey : ctx.txSak.key = other.key
    · have sameSak : other = sak :=
        List.inj_on_of_nodup_map fresh member known
          (sameKey.symm.trans key.symm)
      subst sameSak
      rw [← key, numbersUnder_concat_self, numbers, ← count]
      exact ⟨length + 1, (List.range'_1_concat ..).symm⟩
    · rw [numbersUnder_concat_of_ne sameKey]
      exact numbered.consecutive other member
  · intro _
    rw [nowSent, sameInstalled, same]
    refine ⟨sak, known, key, ?_⟩
    rw [← key, numbersUnder_concat_self, numbers, List.length_append,
      List.length_range', reachedPn_followingPn nonzero, reached, ← count]
    rfl

/-! ## Runs -/

/-- A successful call protects a frame with the next packet number. -/
theorem sentFrame_encrypt {plain : Bytes} {secureMaxLen : Nat}
    (ok : (encrypt aes ctx plain secureMaxLen).1 = .ok) :
    sentFrame ((machine aes).event ctx (.encrypt plain secureMaxLen)) =
      some (ctx.txSak.key, ctx.txSak.nextPn) := by
  rcases encrypt_cases aes ctx plain secureMaxLen with
    ⟨failed, -⟩ | ⟨-, -, -, -, rest, frame⟩
  · exact absurd ok failed
  · change (if (encrypt aes ctx plain secureMaxLen).1 = .ok then
        some (ctx.txSak.key,
          framePn (encrypt aes ctx plain secureMaxLen).2.2)
      else none) = _
    rw [if_pos ok, frame, framePn_aad]

/-- A call that fails protects no frame. -/
theorem sentFrame_failed {plain : Bytes} {secureMaxLen : Nat}
    (failed : (encrypt aes ctx plain secureMaxLen).1 ≠ .ok) :
    sentFrame ((machine aes).event ctx (.encrypt plain secureMaxLen)) = none :=
  if_neg failed

/-- The association that a successful installation leaves. -/
theorem setTxSak_cases (table : SaTable) (sak : Sak) :
    (setTxSak table sak).1 ≠ .ok ∧ (setTxSak table sak).2 = table ∨
      (setTxSak table sak).1 = .ok ∧
        (setTxSak table sak).2.txSak.key = sak.key ∧
        (setTxSak table sak).2.txSak.nextPn =
          if sak.nextPn = 0 then 1 else sak.nextPn := by
  unfold setTxSak
  split
  next => exact Or.inl ⟨Err.noConfusion, rfl⟩
  next =>
      split
      next => exact Or.inl ⟨Err.noConfusion, rfl⟩
      next => exact Or.inr ⟨rfl, rfl, rfl⟩

theorem reachedPn_installed (sak : Sak) :
    reachedPn (if sak.nextPn = 0 then 1 else sak.nextPn) = firstPn sak := by
  unfold firstPn reachedPn
  split
  next => rfl
  next nonzero => simp

/-- Every call keeps the invariant, unless it installs a key again. -/
theorem Numbered.perform (numbered : Numbered past ctx) (call : Call)
    (fresh :
      ((installed (past ++ [(machine aes).event ctx call])).map
        Sak.key).Nodup) :
    Numbered (past ++ [(machine aes).event ctx call])
      (perform aes ctx call).1 := by
  cases call with
  | setTxSak sak =>
      rcases setTxSak_cases ctx.toSaTable sak with
        ⟨failed, same⟩ | ⟨ok, sameKey, nextPn⟩
      · refine numbered.idle (if_neg failed) rfl fun _ => ?_
        change (setTxSak ctx.toSaTable sak).2.txSak = _
        rw [same]
      · refine numbered.install (if_pos ok) rfl fresh sameKey ?_
        exact (congrArg reachedPn nextPn).trans (reachedPn_installed sak)
  | setRxSak sak =>
      refine numbered.idle rfl rfl fun _ => ?_
      change (setRxSak ctx.toSaTable sak).2.txSak = _
      rcases setRxSak_rest ctx.toSaTable sak with result | result
      all_goals rw [result]
  | removeTxSak => exact numbered.idle rfl rfl fun valid => by cases valid
  | removeRxSak an => exact numbered.idle rfl rfl fun _ => rfl
  | protectReplay replayProtect replayWindow =>
      exact numbered.idle rfl rfl fun _ => rfl
  | encrypt plain secureMaxLen =>
      rcases encrypt_cases aes ctx plain secureMaxLen with
        ⟨failed, -, initialized, cached, cacheValid, table⟩ |
        ⟨ok, valid, nonzero, ⟨initialized, cached, cacheValid, table⟩, -⟩
      · refine numbered.idle rfl (sentFrame_failed failed) fun _ => ?_
        change (encrypt aes ctx plain secureMaxLen).2.1.txSak = _
        rw [table]
        rfl
      · rw [installed_concat] at fresh
        refine numbered.send rfl (sentFrame_encrypt ok) ?_ valid nonzero ?_
        · exact (List.append_nil (installed past)) ▸ fresh
        · change (encrypt aes ctx plain secureMaxLen).2.1.txSak = _
          rw [table]
          rfl
  | decrypt secure plain =>
      refine numbered.idle rfl rfl fun _ => ?_
      change (decrypt aes ctx secure plain).2.1.txSak = _
      rcases decrypt_cases aes ctx secure plain with
        ⟨-, initialized, cached, cacheValid, table⟩ |
        ⟨-, -, -, -, initialized, cached, cacheValid, table⟩
      all_goals
        rw [table]
        rfl

/-- Every run that installs no key twice keeps the invariant. -/
theorem numbered_final (localSci : Octets 8) (calls : List Call)
    (fresh :
      ((installed ((machine aes).events (init localSci) calls)).map
        Sak.key).Nodup) :
    Numbered ((machine aes).events (init localSci) calls)
      ((machine aes).final (init localSci) calls) := by
  induction calls using List.reverseRecOn with
  | nil =>
      refine ⟨List.nodup_nil, ?_, ?_, ?_, fun valid => by cases valid⟩
      all_goals exact fun _ member => absurd member List.not_mem_nil
  | append_singleton calls call inductionHypothesis =>
      rw [Transition.Machine.events_concat] at fresh ⊢
      rw [Transition.Machine.final_concat]
      refine (inductionHypothesis ?_).perform call fresh
      rw [installed_concat, List.map_append] at fresh
      exact (List.nodup_append.mp fresh).1

/-! ## Exhaustion -/

/-- The transmit association has no packet number left. -/
def Exhausted (ctx : Ctx) : Prop :=
  ctx.txSak.valid = true → ctx.txSak.nextPn = 0

/-- Only an installation ends the exhaustion, and until then no frame is
protected. -/
theorem Exhausted.perform (exhausted : Exhausted ctx) (call : Call)
    (installsNone : installedSak ((machine aes).event ctx call) = none) :
    sentFrame ((machine aes).event ctx call) = none ∧
      Exhausted (perform aes ctx call).1 := by
  cases call with
  | setTxSak sak =>
      rcases setTxSak_cases ctx.toSaTable sak with ⟨-, same⟩ | ⟨ok, -⟩
      · refine ⟨rfl, ?_⟩
        change Exhausted
          { ctx with toSaTable := (setTxSak ctx.toSaTable sak).2 }
        rw [same]
        exact exhausted
      · have installs :
            installedSak ((machine aes).event ctx (.setTxSak sak)) = some sak :=
          if_pos ok
        rw [installs] at installsNone
        cases installsNone
  | setRxSak sak =>
      refine ⟨rfl, ?_⟩
      change Exhausted { ctx with toSaTable := (setRxSak ctx.toSaTable sak).2 }
      rcases setRxSak_rest ctx.toSaTable sak with result | result
      all_goals
        rw [result]
        exact exhausted
  | removeTxSak => exact ⟨rfl, fun valid => by cases valid⟩
  | removeRxSak an => exact ⟨rfl, exhausted⟩
  | protectReplay replayProtect replayWindow => exact ⟨rfl, exhausted⟩
  | encrypt plain secureMaxLen =>
      rcases encrypt_cases aes ctx plain secureMaxLen with
        ⟨failed, -, initialized, cached, cacheValid, table⟩ |
        ⟨-, valid, nonzero, -⟩
      · refine ⟨sentFrame_failed failed, ?_⟩
        change Exhausted (encrypt aes ctx plain secureMaxLen).2.1
        unfold Exhausted
        rw [table]
        exact exhausted
      · exact absurd (exhausted valid) nonzero
  | decrypt secure plain =>
      refine ⟨rfl, ?_⟩
      change Exhausted (decrypt aes ctx secure plain).2.1
      unfold Exhausted
      rcases decrypt_cases aes ctx secure plain with
        ⟨-, initialized, cached, cacheValid, table⟩ |
        ⟨-, -, -, -, initialized, cached, cacheValid, table⟩
      all_goals
        rw [table]
        exact exhausted

/-- The last packet number exhausts the association it is sent under. -/
theorem exhausted_of_last {call : Call} {key : Bytes}
    (last : sentFrame ((machine aes).event ctx call) = some (key, 0xFFFFFFFF)) :
    Exhausted (perform aes ctx call).1 := by
  cases call with
  | encrypt plain secureMaxLen =>
      rcases encrypt_cases aes ctx plain secureMaxLen with
        ⟨failed, -⟩ | ⟨ok, -, -, ⟨initialized, cached, cacheValid, table⟩, -⟩
      · rw [sentFrame_failed failed] at last
        cases last
      · rw [sentFrame_encrypt ok] at last
        have number : ctx.txSak.nextPn = 0xFFFFFFFF :=
          congrArg Prod.snd (Option.some.inj last)
        change Exhausted (encrypt aes ctx plain secureMaxLen).2.1
        unfold Exhausted
        rw [table]
        change _ → followingPn ctx.txSak.nextPn = 0
        rw [number]
        exact fun _ => rfl
  | setTxSak _ | setRxSak _ | removeTxSak | removeRxSak _ | protectReplay _ _
  | decrypt _ _ => cases last

/-- After the last packet number no frame is protected until an association is
installed. -/
theorem sent_after_last {start : Ctx} {calls : List Call}
    {past rest : List Event} {event : Event} {key : Bytes}
    (split : (machine aes).events start calls = past ++ event :: rest)
    (last : sentFrame event = some (key, 0xFFFFFFFF))
    (installsNone : installed rest = []) : sent rest = [] := by
  obtain ⟨-, form, later, run⟩ :=
    @Transition.Machine.events_after _ _ _ (machine aes) start calls
      (fun _ => True) (fun _ _ _ => trivial) trivial past rest event split
  have exhausted : Exhausted event.after := by
    rw [form] at last ⊢
    exact exhausted_of_last last
  unfold installed at installsNone
  unfold sent
  rw [List.filterMap_eq_nil_iff] at installsNone ⊢
  rw [← run] at installsNone ⊢
  refine Transition.Machine.forall_guarded ?_ ?_ exhausted later installsNone
  · exact fun _ call exhausted none => (exhausted.perform call none).2
  · exact fun _ call exhausted none => (exhausted.perform call none).1

/-- The packet number discipline of the transmit association: in a run that
installs no key for transmission twice, no two frames are protected with the
same key and packet number, every frame is protected with an installed key and
not with packet number 0, the numbers under an installed key are consecutive
from the number it was installed with, and after the last number nothing is
protected until an association is installed. -/
theorem packet_number_discipline (aes : BlockCipher) (localSci : Octets 8)
    (calls : List Call)
    (fresh :
      ((installed ((machine aes).events (init localSci) calls)).map
        Sak.key).Nodup) :
    let events := (machine aes).events (init localSci) calls
    (sent events).Nodup ∧
      (∀ frame ∈ sent events,
        frame.2 ≠ 0 ∧ ∃ sak ∈ installed events, sak.key = frame.1) ∧
      (∀ sak ∈ installed events, ∃ count,
        numbersUnder sak.key (sent events) =
          List.range' (firstPn sak) count) ∧
      ∀ past event rest key, events = past ++ event :: rest →
        sentFrame event = some (key, 0xFFFFFFFF) → installed rest = [] →
          sent rest = [] := by
  have numbered := numbered_final localSci calls fresh
  refine ⟨numbered.distinct, ?_, numbered.consecutive, ?_⟩
  · exact fun frame member =>
      ⟨numbered.nonzero frame member, numbered.installs frame member⟩
  · exact fun _ _ _ _ split last installsNone =>
      sent_after_last split last installsNone

/-- Calls that use up the last packet number of an association and install
another one. -/
def exhaustingCalls : List Call :=
  [.setTxSak { fixedSak with nextPn := 0xFFFFFFFF },
    .encrypt (List.replicate 61 0) 1700, .encrypt (List.replicate 61 0) 1700,
    .setTxSak { fixedSak with key := List.replicate 32 2 },
    .encrypt (List.replicate 61 0) 1700]

/-- These calls obey the packet number discipline. -/
theorem exhausting_calls_discipline :
    let events :=
      (machine BlockCipher.null).events (init (Octets.zero 8)) exhaustingCalls
    (sent events).Nodup ∧
      (∀ frame ∈ sent events,
        frame.2 ≠ 0 ∧ ∃ sak ∈ installed events, sak.key = frame.1) ∧
      (∀ sak ∈ installed events, ∃ count,
        numbersUnder sak.key (sent events) =
          List.range' (firstPn sak) count) ∧
      ∀ past event rest key, events = past ++ event :: rest →
        sentFrame event = some (key, 0xFFFFFFFF) → installed rest = [] →
          sent rest = [] :=
  packet_number_discipline BlockCipher.null (Octets.zero 8) exhaustingCalls
    (by decide)

end FrameCrypto

end Macsec
