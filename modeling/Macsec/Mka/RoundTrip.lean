import Macsec.Mka.Layout

/-!
# What a built MKPDU says

A participant writes an MKPDU from its protocol state, and a participant with
the same keys reads it back.  The walk over the parameter sets visits the sets
in the order in which they were written; the scans find what was written; and
the integrity check value verifies.  So a built frame is accepted by every other
participant as an MKPDU that is a function of the state it was built in.
-/

namespace Macsec

namespace Mka

/-! ## The parameter sets of a participant -/

namespace Participant

/-- The peer list of a participant. -/
def peerListSet (ctx : Participant) : ParamSet where
  type := if ctx.peer.live then paramLivePeerList else paramPotentialPeerList
  flags := 0
  body := ctx.peer.mi.1 ++ (wrBe32 ctx.peer.mn).1

/-- The Distributed SAK of a participant, wrapped. -/
def distributedSakSet (ctx : Participant) (wrapped : Bytes) : ParamSet where
  type := paramDistributedSak
  flags := UInt8.ofNat ctx.latestSak.an.1 <<< 6
  body := (wrBe32 ctx.latestSak.keyNumber).1 ++ wrapped

/-- What SAK Use says about the latest SAK. -/
def latestReport (ctx : Participant) : Bytes :=
  if ctx.latestSak.lifecycleState ≠ .none then
    (if ctx.localKeyServer then ctx.localMi else ctx.peer.mi).1 ++
      (wrBe32 ctx.latestSak.keyNumber).1 ++
      (wrBe32 (reportedPn ctx.latestSak)).1
  else
    List.replicate 20 0

/-- What SAK Use says about the old SAK. -/
def oldReport (ctx : Participant) : Bytes :=
  if ctx.oldSak.lifecycleState = .retiring then
    (if ctx.oldSak.origin = .localKeyServer then ctx.localMi
      else ctx.peer.mi).1 ++
      (wrBe32 ctx.oldSak.keyNumber).1 ++
      (wrBe32 (reportedPn ctx.oldSak)).1
  else
    List.replicate 16 0 ++ (wrBe32 1).1

/-- The SAK Use of a participant. -/
def sakUseSet (ctx : Participant) : ParamSet where
  type := paramSakUse
  flags := ctx.sakUseFlags
  body := ctx.latestReport ++ ctx.oldReport

/-- The sets a participant writes behind the Basic Parameter Set. -/
def paramSets (ctx : Participant) (wrapped : Bytes) : List ParamSet :=
  (if ctx.includePeerList then [ctx.peerListSet] else []) ++
    (if ctx.includeDistributedSak then [ctx.distributedSakSet wrapped]
      else []) ++
    (if ctx.includeSakUse then [ctx.sakUseSet] else [])

variable {ctx : Participant}

theorem length_latestReport : ctx.latestReport.length = 20 := by
  unfold latestReport
  split
  next =>
      rw [List.length_append, List.length_append,
        (wrBe32 ctx.latestSak.keyNumber).2,
        (wrBe32 (reportedPn ctx.latestSak)).2]
      split
      next => rw [ctx.localMi.2]
      next => rw [ctx.peer.mi.2]
  next => rfl

theorem length_oldReport : ctx.oldReport.length = 20 := by
  unfold oldReport
  split
  next =>
      rw [List.length_append, List.length_append,
        (wrBe32 ctx.oldSak.keyNumber).2, (wrBe32 (reportedPn ctx.oldSak)).2]
      split
      next => rw [ctx.localMi.2]
      next => rw [ctx.peer.mi.2]
  next => rfl

/-- The sizes of the parameter sets. -/
theorem length_sets (wrapped : Bytes) :
    ctx.peerListSet.body.length = 16 ∧
      (ctx.distributedSakSet wrapped).body.length = 4 + wrapped.length ∧
      ctx.sakUseSet.body.length = 40 := by
  refine ⟨?_, ?_, ?_⟩
  · change (ctx.peer.mi.1 ++ (wrBe32 ctx.peer.mn).1).length = 16
    rw [List.length_append, ctx.peer.mi.2, (wrBe32 ctx.peer.mn).2]
  · change ((wrBe32 ctx.latestSak.keyNumber).1 ++ wrapped).length = _
    rw [List.length_append, (wrBe32 ctx.latestSak.keyNumber).2]
  · change (ctx.latestReport ++ ctx.oldReport).length = 40
    rw [List.length_append, length_latestReport, length_oldReport]

/-- The sets a participant writes. -/
theorem mem_paramSets {wrapped : Bytes} {set : ParamSet}
    (member : set ∈ ctx.paramSets wrapped) :
    set = ctx.peerListSet ∨
      ctx.includeDistributedSak = true ∧ set = ctx.distributedSakSet wrapped ∨
      set = ctx.sakUseSet := by
  simp only [paramSets, List.mem_append] at member
  rcases member with (member | member) | member
  · split at member
    · exact Or.inl (List.mem_singleton.mp member)
    · exact absurd member List.not_mem_nil
  · split at member
    next included =>
        exact Or.inr (Or.inl ⟨included, List.mem_singleton.mp member⟩)
    next => exact absurd member List.not_mem_nil
  · split at member
    · exact Or.inr (Or.inr (List.mem_singleton.mp member))
    · exact absurd member List.not_mem_nil

/-- Every set is short. -/
theorem paramSets_short {wrapped : Bytes}
    (short : ctx.includeDistributedSak = true → wrapped.length ≤ 40) :
    ∀ set ∈ ctx.paramSets wrapped, set.body.length < 256 := by
  obtain ⟨peerList, distributed, sakUse⟩ := ctx.length_sets wrapped
  intro set member
  rcases mem_paramSets member with rfl | ⟨included, rfl⟩ | rfl
  · omega
  · have fits := short included
    omega
  · omega

/-! ## The frame as a whole -/

/-- The octets in front of the Basic Parameter Set. -/
def writeHeader (ctx : Participant) (cknLen : Nat) : Bytes :=
  dstMac.1 ++ ctx.localMac.1 ++ (wrBe16 ethertypeEapol).1 ++
    [eapolVersion2010, eapolTypeMka] ++
    (wrBe16 (UInt16.ofNat (ctx.txMicLen cknLen + icvLen - 18))).1

/-- The Distributed SAK of a frame, if it contains one. -/
def distributedOctets (ctx : Participant) (wrapped : Bytes) : Bytes :=
  if ctx.includeDistributedSak then (ctx.distributedSakSet wrapped).encode
  else []

theorem writeFrame_eq (ckn wrapped : Bytes) :
    ctx.writeFrame ckn (ctx.distributedOctets wrapped) =
      ctx.writeHeader ckn.length ++
        (ctx.writeBasic ckn ++
          (ctx.paramSets wrapped).flatMap ParamSet.encode) := by
  have peerList :
      (if ctx.includePeerList then ctx.writePeerList else []) =
        (if ctx.includePeerList then [ctx.peerListSet] else []).flatMap
          ParamSet.encode := by
    split
    next => exact (List.flatMap_singleton ..).symm
    next => rfl
  have distributed :
      ctx.distributedOctets wrapped =
        (if ctx.includeDistributedSak then [ctx.distributedSakSet wrapped]
          else []).flatMap ParamSet.encode := by
    unfold distributedOctets
    split
    next => exact (List.flatMap_singleton ..).symm
    next => rfl
  have sakUse :
      (if ctx.includeSakUse then ctx.writeSakUse else []) =
        (if ctx.includeSakUse then [ctx.sakUseSet] else []).flatMap
          ParamSet.encode := by
    split
    next => exact (List.flatMap_singleton ..).symm
    next => rfl
  rw [writeFrame, peerList, distributed, sakUse, paramSets,
    List.flatMap_append, List.flatMap_append, writeHeader]
  simp only [List.append_assoc]

/-- The sizes under which a frame is written. -/
structure Writes (ctx : Participant) (ckn wrapped : Bytes) : Prop where
  sakFits : ctx.includeDistributedSak = true →
    ctx.latestSak.sak.length ≤ 32
  wrappedLen : ctx.includeDistributedSak = true →
    wrapped.length = ctx.latestSak.sak.length + 8
  cknFits : ckn.length ≤ caNameMaxLen
  frameFits : ctx.txMicLen ckn.length + icvLen ≤ maxFrameLen

variable {ckn wrapped : Bytes}

/-- The length of a frame in front of its integrity check value. -/
theorem laidLen_paramSets (writes : ctx.Writes ckn wrapped) :
    laidLen ckn (ctx.paramSets wrapped) = ctx.txMicLen ckn.length := by
  obtain ⟨peerList, distributed, sakUse⟩ := ctx.length_sets wrapped
  have wrappedSize :
      (if ctx.includeDistributedSak = true then 4 + (4 + wrapped.length)
        else 0) =
        if ctx.includeDistributedSak = true then
          4 + 4 + (ctx.latestSak.sak.length + 8)
        else 0 := by
    split
    next included => rw [writes.wrappedLen included]; omega
    next => rfl
  rw [laidLen, paramSets, txMicLen]
  simp only [List.flatMap_append, List.length_append, length_encode_if,
    peerList, distributed, sakUse, wrappedSize]
  omega

theorem Writes.laid (writes : ctx.Writes ckn wrapped) :
    Laid ckn (ctx.paramSets wrapped) where
  cknFits := writes.cknFits
  short := by
    refine paramSets_short fun included => ?_
    rw [writes.wrappedLen included]
    exact Nat.add_le_add_right (writes.sakFits included) 8
  frameFits := by
    rw [laidLen_paramSets writes]
    exact writes.frameFits

/-- A participant lays its frames out from its parameter sets. -/
theorem writeFrame_eq_layFrame (writes : ctx.Writes ckn wrapped) :
    ctx.writeFrame ckn (ctx.distributedOctets wrapped) =
      ctx.layFrame ckn (ctx.paramSets wrapped) := by
  rw [writeFrame_eq, layFrame, laidLen_paramSets writes]
  rfl

theorem laidBasic_paramSets (writes : ctx.Writes ckn wrapped)
    (icv : Octets 16) :
    ctx.laidBasic ckn (ctx.paramSets wrapped) icv = ctx.basic ckn icv := by
  rw [laidBasic, laidLen_paramSets writes]
  rfl

/-- The frame of a participant with its integrity check value. -/
def frameWith (ctx : Participant) (ckn wrapped : Bytes) (icv : Octets 16) :
    Bytes :=
  ctx.writeFrame ckn (ctx.distributedOctets wrapped) ++ icv.1

theorem frameWith_eq_layFrame (writes : ctx.Writes ckn wrapped)
    (icv : Octets 16) :
    ctx.frameWith ckn wrapped icv =
      ctx.layFrame ckn (ctx.paramSets wrapped) ++ icv.1 := by
  rw [frameWith, writeFrame_eq_layFrame writes]

theorem length_frameWith (writes : ctx.Writes ckn wrapped) (icv : Octets 16) :
    (ctx.frameWith ckn wrapped icv).length =
      ctx.txMicLen ckn.length + icvLen := by
  rw [frameWith_eq_layFrame writes, List.length_append, length_layFrame,
    laidLen_paramSets writes, icv.2]
  rfl

/-- The parameter sets of a written frame end where its integrity check value
begins. -/
theorem paramSetsEnd_frameWith (writes : ctx.Writes ckn wrapped)
    (icv : Octets 16) :
    paramSetsEnd (ctx.frameWith ckn wrapped icv) =
      some (ctx.txMicLen ckn.length) := by
  rw [frameWith_eq_layFrame writes, (parse_layFrame writes.laid icv).2.2,
    laidLen_paramSets writes]

/-- A walk over a written frame yields what the first parameter set yields that
yields anything. -/
theorem walk_frameWith (writes : ctx.Writes ckn wrapped) (icv : Octets 16)
    {read : ParamSet → Option ρ}
    (reads : ∀ set ∈ ctx.paramSets wrapped, ∀ before after : Bytes,
      ctx.frameWith ckn wrapped icv = before ++ (set.encode ++ after) →
        visit set.type set.flags (before.length + 4) set.body.length =
          read set) :
    walk (ctx.frameWith ckn wrapped icv) (ctx.txMicLen ckn.length) overflow
        done visit basicOffset =
      ((ctx.paramSets wrapped).findSome? read).getD done := by
  rw [frameWith_eq_layFrame writes] at reads ⊢
  rw [← laidLen_paramSets writes]
  exact walk_layFrame writes.laid icv reads

/-! ## What the frame says -/

/-- The Distributed SAK a participant offers. -/
def offeredSak (ctx : Participant) : Except Err DistributedSak :=
  if ctx.includeDistributedSak then
    if keyNumberNonzero : ctx.latestSak.keyNumber ≠ 0 then
      if sakLen : sakLenValid ctx.latestSak.sak.length = true then
        .ok
          { an := ctx.latestSak.an
            keyNumber := ctx.latestSak.keyNumber
            sak := ctx.latestSak.sak
            keyNumberNonzero
            sakLen }
      else
        .error .buffer
    else
      .error .buffer
  else
    .error .notReady

/-- What a participant reports about its latest SAK. -/
def latestSakUse (ctx : Participant) : SakUse :=
  if ctx.latestSak.lifecycleState ≠ .none then
    { keyServerMi := if ctx.localKeyServer then ctx.localMi else ctx.peer.mi
      keyNumber := ctx.latestSak.keyNumber
      an := ctx.latestSak.an
      latestTx := ctx.latestSak.txInstalled
      latestRx := ctx.latestSak.rxInstalled }
  else
    { keyServerMi := Octets.zero 12
      keyNumber := 0
      an := 0
      latestTx := false
      latestRx := false }

/-- The SAK Use a participant reports. -/
def reportedUse (ctx : Participant) : Except Err SakUse :=
  if ctx.includeSakUse then .ok ctx.latestSakUse else .error .notReady

/-- What the frame of a participant says to the participant with the given
member identifier.  Peer lists are not read in frames of less than 90
octets. -/
def mkpdu (ctx : Participant) (ckn : Bytes) (icv : Octets 16)
    (mi : Octets 12) : Mkpdu where
  basic := ctx.basic ckn icv
  distributedSak := ctx.offeredSak
  localSeen :=
    ctx.includePeerList && ctx.peer.mi == mi &&
      decide (90 ≤ ctx.txMicLen ckn.length + icvLen)
  sakUse := ctx.reportedUse

/-- The association number and the directions of the latest SAK are read back
from the flags of SAK Use. -/
theorem sakUseFlags_fields :
    flagsAn ctx.sakUseFlags = ctx.latestSakUse.an ∧
      (ctx.sakUseFlags &&& 0x20 != 0) = ctx.latestSakUse.latestTx ∧
      (ctx.sakUseFlags &&& 0x10 != 0) = ctx.latestSakUse.latestRx := by
  have table : ∀ (an other : Fin 4) (tx rx otherTx otherRx : Bool),
      let flags : UInt8 :=
        (UInt8.ofNat an.1 <<< 6 ||| (if tx then 0x20 else 0 : UInt8) |||
            (if rx then 0x10 else 0 : UInt8)) |||
          (UInt8.ofNat other.1 <<< 2 |||
            (if otherTx then 0x02 else 0 : UInt8) |||
            (if otherRx then 0x01 else 0 : UInt8))
      flagsAn flags = an ∧ (flags &&& 0x20 != 0) = tx ∧
        (flags &&& 0x10 != 0) = rx := by
    decide
  rw [sakUseFlags, latestSakUse]
  by_cases latest : ctx.latestSak.lifecycleState ≠ .none
  · rw [if_pos latest, if_pos latest]
    by_cases old : ctx.oldSak.lifecycleState = .retiring
    · rw [if_pos old]
      exact table _ _ _ _ _ _
    · rw [if_neg old]
      exact table _ 0 _ _ false false
  · rw [if_neg latest, if_neg latest]
    by_cases old : ctx.oldSak.lifecycleState = .retiring
    · rw [if_pos old]
      exact table 0 _ false false _ _
    · rw [if_neg old]
      exact table 0 0 false false false false

/-- SAK Use is read back from its parameter set. -/
theorem readSakUse_sakUseSet {frame before after : Bytes}
    (written : frame = before ++ (ctx.sakUseSet.encode ++ after)) :
    readSakUse frame ctx.sakUseSet.flags (before.length + 4)
        ctx.sakUseSet.body.length = .ok ctx.latestSakUse := by
  have mi :
      frame.slice (before.length + 4) 12 = ctx.latestSakUse.keyServerMi := by
    have read := slice_body written 0 12
    rw [Nat.add_zero] at read
    rw [read]
    change Bytes.slice (ctx.latestReport ++ ctx.oldReport ++ after) 0 12 = _
    rw [latestReport, latestSakUse]
    split
    next =>
        simp only [List.append_assoc]
        exact Bytes.slice_append_self _ _
    next => rfl
  have keyNumber :
      rdBe32 frame (before.length + 4 + 12) = ctx.latestSakUse.keyNumber := by
    apply rdBe32_eq
    rw [slice_body written]
    change Bytes.slice (ctx.latestReport ++ ctx.oldReport ++ after) 12 4 = _
    rw [latestReport, latestSakUse]
    split
    next =>
        simp only [List.append_assoc]
        rw [Bytes.slice_beyond _ _ _ (by decide)]
        exact Bytes.slice_append_self _ _
    next => rfl
  obtain ⟨an, latestTx, latestRx⟩ := ctx.sakUseFlags_fields
  have size := (ctx.length_sets []).2.2
  rw [readSakUse, if_neg (by omega), mi, keyNumber]
  change Except.ok
    (SakUse.mk _ _ (flagsAn ctx.sakUseFlags) (ctx.sakUseFlags &&& 0x20 != 0)
      (ctx.sakUseFlags &&& 0x10 != 0)) = _
  rw [an, latestTx, latestRx]

/-- The peer is found in its peer list. -/
theorem findPeerEntry_peerListSet {frame before after : Bytes}
    (written : frame = before ++ (ctx.peerListSet.encode ++ after))
    (mi : Octets 12) :
    findPeerEntry frame mi ctx.peerListSet.type
        (before.length + 4 + ctx.peerListSet.body.length)
        (before.length + 4) =
      if ctx.peer.mi = mi then some (ctx.peer.mn, ctx.peerListSet.type)
      else none := by
  have entry : frame.slice (before.length + 4) 12 = ctx.peer.mi := by
    have read := slice_body written 0 12
    rw [Nat.add_zero] at read
    rw [read]
    change Bytes.slice (ctx.peer.mi.1 ++ (wrBe32 ctx.peer.mn).1 ++ after) 0 12 =
      _
    rw [List.append_assoc, Bytes.slice_append_self]
  have mn : rdBe32 frame (before.length + 4 + 12) = ctx.peer.mn := by
    apply rdBe32_eq
    rw [slice_body written]
    change Bytes.slice (ctx.peer.mi.1 ++ (wrBe32 ctx.peer.mn).1 ++ after) 12 4 =
      _
    rw [List.append_assoc, Bytes.slice_beyond _ _ _ (Nat.le_refl 12)]
    exact Bytes.slice_append_self _ _
  have size := (ctx.length_sets []).1
  rw [findPeerEntry, if_pos (by omega), entry, mn]
  by_cases same : ctx.peer.mi = mi
  · rw [if_pos ((compare_octets_eq_zero _ _).mpr same), if_pos same]
  · rw [if_neg (mt (compare_octets_eq_zero _ _).mp same), findPeerEntry,
      if_neg (by omega), if_neg same]

/-- A Distributed SAK is read back from its parameter set. -/
theorem readDistributedSak_distributedSakSet
    {aes : BlockCipher} {crypto : MkaCrypto.Ctx} {frame before after : Bytes}
    (written :
      frame = before ++ ((ctx.distributedSakSet wrapped).encode ++ after))
    (included : ctx.includeDistributedSak = true)
    (held : ctx.latestSak.Held)
    (size : wrapped.length = ctx.latestSak.sak.length + 8)
    (unwraps :
      MkaCrypto.unwrapSak aes crypto wrapped 32 = .ok ctx.latestSak.sak) :
    readDistributedSak aes crypto frame (ctx.distributedSakSet wrapped).flags
        (before.length + 4) (ctx.distributedSakSet wrapped).body.length =
      ctx.offeredSak := by
  have keyNumber :
      rdBe32 frame (before.length + 4) = ctx.latestSak.keyNumber := by
    apply rdBe32_eq
    have read := slice_body written 0 4
    rw [Nat.add_zero] at read
    rw [read]
    change Bytes.slice
      ((wrBe32 ctx.latestSak.keyNumber).1 ++ wrapped ++ after) 0 4 = _
    rw [List.append_assoc, Bytes.slice_append_self]
  have octets :
      (frame.slice (before.length + 4 + 4) wrapped.length).1 = wrapped := by
    rw [slice_body written]
    change (Bytes.slice
      ((wrBe32 ctx.latestSak.keyNumber).1 ++ wrapped ++ after) 4
        wrapped.length).1 = _
    rw [List.append_assoc, Bytes.slice_beyond _ _ _ (Nat.le_refl 4)]
    exact congrArg Subtype.val
      (Bytes.slice_append_self (⟨wrapped, rfl⟩ : Octets wrapped.length) after)
  have an :
      flagsAn (ctx.distributedSakSet wrapped).flags = ctx.latestSak.an := by
    have table : ∀ an : Fin 4, flagsAn (UInt8.ofNat an.1 <<< 6) = an := by
      decide
    exact table ctx.latestSak.an
  have keySize :
      ctx.latestSak.sak.length = 16 ∨ ctx.latestSak.sak.length = 32 := by
    simpa [sakLenValid] using held.length
  have bodySize := (ctx.length_sets wrapped).2.1
  have wrappedSize :
      (ctx.distributedSakSet wrapped).body.length - 4 = wrapped.length := by
    omega
  rw [readDistributedSak, wrappedSize, keyNumber, if_neg (by omega),
    dif_pos held.keyNumber, if_neg (by omega), octets, unwraps]
  dsimp only
  rw [dif_pos held.length, offeredSak, if_pos included,
    dif_pos held.keyNumber, dif_pos held.length, an]

/-- The first set of the three that is read. -/
theorem findSome?_paramSets (read : ParamSet → Option ρ) :
    (ctx.paramSets wrapped).findSome? read =
      ((if ctx.includePeerList = true then read ctx.peerListSet
          else none).or
        (if ctx.includeDistributedSak = true then
          read (ctx.distributedSakSet wrapped) else none)).or
        (if ctx.includeSakUse = true then read ctx.sakUseSet else none) := by
  have optional (present : Bool) (set : ParamSet) :
      (if present = true then [set] else []).findSome? read =
        if present = true then read set else none := by
    cases present with
    | false => rfl
    | true =>
        rw [if_pos rfl, if_pos rfl, List.findSome?_singleton]
  rw [paramSets, List.findSome?_append, List.findSome?_append, optional,
    optional, optional]

/-- The types of the three sets differ. -/
theorem type_sets :
    (ctx.peerListSet.type = paramLivePeerList ∨
        ctx.peerListSet.type = paramPotentialPeerList) ∧
      ctx.peerListSet.type ≠ paramDistributedSak ∧
      ctx.peerListSet.type ≠ paramSakUse := by
  unfold peerListSet
  dsimp only
  split
  next => exact ⟨Or.inl rfl, by decide, by decide⟩
  next => exact ⟨Or.inr rfl, by decide, by decide⟩

/-- A frame with more than a peer list is long enough to be scanned. -/
theorem long_of_included (ckn : Bytes)
    (included : ctx.includeDistributedSak = true ∨
      ctx.includeSakUse = true) :
    90 ≤ ctx.txMicLen ckn.length + icvLen := by
  have valid : ctx.includePeerList = true := by
    rcases included with included | included
    · simp only [includeDistributedSak, Bool.and_eq_true] at included
      exact included.1.1.1.1.2
    · simp only [includeSakUse, Bool.and_eq_true] at included
      exact included.1.2
  rw [txMicLen, valid, icvLen]
  rcases included with included | included
  · rw [included]
    simp only [if_true]
    omega
  · rw [included]
    simp only [if_true]
    omega

variable {aes : BlockCipher} {crypto : MkaCrypto.Ctx}

/-- The scan for a Distributed SAK finds the SAK that is offered. -/
theorem scanDistributedSak_frameWith (writes : ctx.Writes ckn wrapped)
    (icv : Octets 16)
    (held : ctx.includeDistributedSak = true → ctx.latestSak.Held)
    (unwraps : ctx.includeDistributedSak = true →
      MkaCrypto.unwrapSak aes crypto wrapped 32 = .ok ctx.latestSak.sak) :
    scanDistributedSak aes crypto (ctx.frameWith ckn wrapped icv) =
      ctx.offeredSak := by
  rw [scanDistributedSak, length_frameWith writes]
  split
  next short =>
      rw [offeredSak, if_neg]
      intro included
      have long := long_of_included ckn (Or.inl included)
      omega
  next =>
      let read (set : ParamSet) : Option (Except Err DistributedSak) :=
        if set.type = paramDistributedSak then some ctx.offeredSak else none
      rw [paramSetsEnd_frameWith writes icv]
      refine (@walk_frameWith _ _ _ _ _ _ _ writes icv read ?_).trans ?_
      · intro set member before after written
        change (if set.type = paramDistributedSak then _ else none) =
          if set.type = paramDistributedSak then _ else none
        split
        next isType =>
            rcases mem_paramSets member with rfl | ⟨included, rfl⟩ | rfl
            · exact absurd isType ctx.type_sets.2.1
            · rw [readDistributedSak_distributedSakSet written included
                (held included) (writes.wrappedLen included)
                (unwraps included)]
            · exact absurd isType
                (show paramSakUse ≠ paramDistributedSak by decide)
        next => rfl
      · rw [findSome?_paramSets]
        simp only [read, if_neg ctx.type_sets.2.1]
        by_cases included : ctx.includeDistributedSak = true
        · simp [included, distributedSakSet]
        · rw [offeredSak, if_neg included]
          simp [included, sakUseSet, paramSakUse, paramDistributedSak]

/-- The scan for SAK Use finds the use that is reported. -/
theorem scanSakUse_frameWith (writes : ctx.Writes ckn wrapped)
    (icv : Octets 16) :
    scanSakUse (ctx.frameWith ckn wrapped icv) = ctx.reportedUse := by
  rw [scanSakUse, length_frameWith writes]
  split
  next short =>
      rw [reportedUse, if_neg]
      intro included
      have long := long_of_included ckn (Or.inr included)
      omega
  next =>
      let read (set : ParamSet) : Option (Except Err SakUse) :=
        if set.type = paramSakUse then some (.ok ctx.latestSakUse) else none
      rw [paramSetsEnd_frameWith writes icv]
      refine (@walk_frameWith _ _ _ _ _ _ _ writes icv read ?_).trans ?_
      · intro set member before after written
        change (if set.type = paramSakUse then _ else none) =
          if set.type = paramSakUse then _ else none
        split
        next isType =>
            rcases mem_paramSets member with rfl | ⟨included, rfl⟩ | rfl
            · exact absurd isType ctx.type_sets.2.2
            · exact absurd isType
                (show paramDistributedSak ≠ paramSakUse by decide)
            · rw [readSakUse_sakUseSet written]
        next => rfl
      · rw [findSome?_paramSets, reportedUse]
        simp only [read, if_neg ctx.type_sets.2.2]
        cases ctx.includeSakUse with
        | true => simp [sakUseSet, distributedSakSet, paramSakUse,
            paramDistributedSak]
        | false => simp [distributedSakSet, paramSakUse, paramDistributedSak]

/-- The scan of the peer lists finds the peer of the sender, with its message
number and the type of the list. -/
theorem frameContainsPeerEntry_frameWith (writes : ctx.Writes ckn wrapped)
    (icv : Octets 16) (mi : Octets 12) :
    frameContainsPeerEntry (ctx.frameWith ckn wrapped icv) mi =
      if ctx.includePeerList = true ∧ ctx.peer.mi = mi ∧
          90 ≤ ctx.txMicLen ckn.length + icvLen then
        some (ctx.peer.mn, ctx.peerListSet.type)
      else
        none := by
  rw [frameContainsPeerEntry, length_frameWith writes]
  split
  next short =>
      rw [if_neg (fun found => absurd found.2.2 (Nat.not_le.mpr short))]
  next long =>
      let read (set : ParamSet) : Option (Option (UInt32 × UInt8)) :=
        if set.type = paramLivePeerList ∨
            set.type = paramPotentialPeerList then
          (if ctx.peer.mi = mi then some (ctx.peer.mn, set.type)
            else none).map some
        else
          none
      rw [paramSetsEnd_frameWith writes icv]
      refine (@walk_frameWith _ _ _ _ _ _ _ writes icv read ?_).trans ?_
      · intro set member before after written
        change (if set.type = paramLivePeerList ∨ _ then _ else none) =
          if set.type = paramLivePeerList ∨ _ then _ else none
        split
        next isList =>
            rcases mem_paramSets member with rfl | ⟨included, rfl⟩ | rfl
            · rw [findPeerEntry_peerListSet written]
            · exact absurd isList
                (show ¬(paramDistributedSak = paramLivePeerList ∨
                  paramDistributedSak = paramPotentialPeerList) by decide)
            · exact absurd isList
                (show ¬(paramSakUse = paramLivePeerList ∨
                  paramSakUse = paramPotentialPeerList) by decide)
        next => rfl
      · have long := Nat.not_lt.mp long
        rw [findSome?_paramSets]
        simp only [read, if_pos ctx.type_sets.1]
        by_cases listed : ctx.includePeerList = true
        · by_cases same : ctx.peer.mi = mi
          · simp [listed, same, long]
          · simp [listed, same, distributedSakSet, sakUseSet,
              paramLivePeerList, paramPotentialPeerList, paramDistributedSak,
              paramSakUse]
        · simp [listed, distributedSakSet, sakUseSet, paramLivePeerList,
            paramPotentialPeerList, paramDistributedSak, paramSakUse]

/-- Whether the participant with a member identifier finds itself in the peer
list of a frame. -/
theorem isSome_frameContainsPeerEntry (writes : ctx.Writes ckn wrapped)
    (icv : Octets 16) (mi : Octets 12) :
    (frameContainsPeerEntry (ctx.frameWith ckn wrapped icv) mi).isSome =
      (ctx.includePeerList && ctx.peer.mi == mi &&
        decide (90 ≤ ctx.txMicLen ckn.length + icvLen)) := by
  rw [frameContainsPeerEntry_frameWith writes, Bool.eq_iff_iff,
    Bool.and_eq_true,
    Bool.and_eq_true, beq_iff_eq, decide_eq_true_iff, and_assoc]
  split
  next found => exact iff_of_true rfl found
  next missing => exact iff_of_false Bool.false_ne_true missing

/-- A frame is decoded to what it says. -/
theorem decode_frameWith (writes : ctx.Writes ckn wrapped) (icv : Octets 16)
    (held : ctx.includeDistributedSak = true → ctx.latestSak.Held)
    (unwraps : ctx.includeDistributedSak = true →
      MkaCrypto.unwrapSak aes crypto wrapped 32 = .ok ctx.latestSak.sak)
    (mi : Octets 12) :
    decode aes crypto mi (ctx.frameWith ckn wrapped icv)
        (ctx.basic ckn icv) = ctx.mkpdu ckn icv mi := by
  rw [decode, mkpdu, scanDistributedSak_frameWith writes icv held unwraps,
    isSome_frameContainsPeerEntry writes icv mi, scanSakUse_frameWith writes icv]

/-! ## Built frames -/

/-- A distributed SAK is held. -/
theorem held_of_includeDistributedSak (shape : LatestShape ctx.latestSak)
    (included : ctx.includeDistributedSak = true) :
    ctx.latestSak.Held ∧ sakDistributable ctx.latestSak = true ∧
      ctx.latestSak.origin = .localKeyServer := by
  simp only [includeDistributedSak, Bool.and_eq_true, beq_iff_eq] at included
  obtain ⟨⟨⟨-, distributable⟩, origin⟩, -⟩ := included
  refine ⟨shape.held ?_, distributable, origin⟩
  intro empty
  rw [sakDistributable, empty] at distributable
  exact Bool.noConfusion distributable

/-- The Distributed SAK of a frame is the wrapped SAK. -/
theorem exists_txDistributedSak (aes : BlockCipher) (keyed : crypto.Keyed)
    (shape : LatestShape ctx.latestSak) :
    ∃ wrapped,
      txDistributedSak aes crypto ctx = .ok (ctx.distributedOctets wrapped) ∧
      (ctx.includeDistributedSak = true →
        wrapped.length = ctx.latestSak.sak.length + 8 ∧
        MkaCrypto.unwrapSak aes crypto wrapped 32 =
          .ok ctx.latestSak.sak) := by
  unfold txDistributedSak distributedOctets
  by_cases included : ctx.includeDistributedSak = true
  · obtain ⟨held, distributable, origin⟩ :=
      held_of_includeDistributedSak shape included
    obtain ⟨wrapped, wraps, length, unwraps⟩ :=
      MkaCrypto.exists_wrapSak aes keyed.kek held.length
    refine ⟨wrapped, ?_, fun _ => ⟨length, unwraps⟩⟩
    rw [if_pos included, if_pos included, writeDistributedSak, distributable,
      if_neg (by decide), if_neg (not_not.mpr origin), wraps]
    rfl
  · refine ⟨[], ?_, fun yes => absurd yes included⟩
    rw [if_neg included, if_neg included]

/-- With keys and a well-shaped SAK a frame is built, and it is the frame of the
participant with its wrapped SAK and the CMAC. -/
theorem exists_buildFrame (aes : BlockCipher) (keyed : crypto.Keyed)
    (shape : LatestShape ctx.latestSak)
    (fits : ctx.txMicLen crypto.psk.ckn.length + icvLen ≤ maxFrameLen) :
    ∃ wrapped icv,
      buildFrame aes crypto ctx =
        .ok (ctx.frameWith crypto.psk.ckn wrapped icv) ∧
      ctx.Writes crypto.psk.ckn wrapped ∧
      (ctx.includeDistributedSak = true →
        MkaCrypto.unwrapSak aes crypto wrapped 32 = .ok ctx.latestSak.sak) ∧
      MkaCrypto.cmac aes crypto.keys.ick
        (ctx.writeFrame crypto.psk.ckn (ctx.distributedOctets wrapped)) =
          .ok icv := by
  have ickSize : MkaCrypto.keyLenValid crypto.keys.ick.length = true := by
    have ready := keyed.ick
    simp only [MkaCrypto.ickReady, Bool.and_eq_true] at ready
    exact ready.2
  obtain ⟨wrapped, distributed, unwraps⟩ :=
    exists_txDistributedSak aes keyed shape
  obtain ⟨icv, mic⟩ :=
    MkaCrypto.exists_cmac aes ickSize
      (ctx.writeFrame crypto.psk.ckn (ctx.distributedOctets wrapped))
  refine ⟨wrapped, icv, ?_, ⟨fun included => ?_,
    fun included => (unwraps included).1, keyed.ckn, fits⟩,
    fun included => (unwraps included).2, mic⟩
  · rw [buildFrame, distributed]
    change (do
      let mic ← MkaCrypto.calcMic aes crypto
        (ctx.writeFrame crypto.psk.ckn (ctx.distributedOctets wrapped))
      return _ ++ mic.1) = _
    rw [calcMic_eq keyed, mic]
    rfl
  · have sizes :=
      (held_of_includeDistributedSak shape included).1.length
    have keySize :
        ctx.latestSak.sak.length = 16 ∨ ctx.latestSak.sak.length = 32 := by
      simpa [sakLenValid] using sizes
    omega

end Participant

/-- What one participant builds, every other participant with its keys accepts
as what the frame says. -/
theorem classify_buildFrame {aes : BlockCipher} {receiver : Ctx}
    {sender : Participant}
    (keyed : receiver.crypto.Keyed) (verifying : receiver.verifyIcv = true)
    (shape : LatestShape sender.latestSak)
    (fits :
      sender.txMicLen receiver.crypto.psk.ckn.length + icvLen ≤ maxFrameLen)
    (otherMac : sender.localMac ≠ receiver.localMac)
    (otherSci : sender.localSci ≠ receiver.localSci)
    (otherMi : sender.localMi ≠ receiver.localMi) :
    ∃ frame icv,
      buildFrame aes receiver.crypto sender = .ok frame ∧
      classify aes receiver frame =
        .accepted
          (sender.mkpdu receiver.crypto.psk.ckn icv receiver.localMi) := by
  obtain ⟨wrapped, icv, built, writes, unwraps, mic⟩ :=
    Participant.exists_buildFrame aes keyed shape fits
  refine ⟨_, icv, built, ?_⟩
  rw [Participant.writeFrame_eq_layFrame writes] at mic
  have accepted :=
    classify_layFrame keyed verifying writes.laid mic otherMac otherSci otherMi
  rw [Participant.laidBasic_paramSets writes,
    ← Participant.frameWith_eq_layFrame writes] at accepted
  rw [accepted, Participant.decode_frameWith writes icv
    (fun included =>
      (Participant.held_of_includeDistributedSak shape included).1) unwraps]

end Mka

end Macsec
