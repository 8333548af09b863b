import Macsec.Foundation.Traced
import Macsec.Mka.Wire

/-!
# Bounds of the parsers

The parsers again, with the octets of the frame they read and the positions
their loops reach.  None of them reads beyond the frame or beyond its EAPOL
body, the scans stay in front of the integrity check value, and their loops only
move forward, over the same parameter sets.
-/

namespace Macsec

namespace Mka

/-! ## Parsers that log their accesses -/

/-- What a parser does with a frame. -/
inductive Access
  /-- It reads the octet at an index. -/
  | read (index : Nat)
  /-- Its loop reaches a parameter set, which it treats as the Basic one or
  not. -/
  | set (pos : Nat) (basic : Bool)
  /-- Its inner loop reaches an entry of a peer list. -/
  | entry (pos : Nat)

/-- A parser with the log of its accesses. -/
abbrev Parser := Traced Access

/-- Read an octet of a frame. -/
def readOctet (frame : Bytes) (offset : Nat) : Parser UInt8 where
  value := frame.octetAt offset
  steps := [.read offset]

/-- Read consecutive octets of a frame. -/
def readOctets (frame : Bytes) (offset n : Nat) : Parser (Octets n) where
  value := frame.slice offset n
  steps := (List.range' offset n).map .read

/-- Read a 16-bit number of a frame. -/
def readBe16 (frame : Bytes) (offset : Nat) : Parser UInt16 where
  value := rdBe16 frame offset
  steps := (List.range' offset 2).map .read

/-- Read a 32-bit number of a frame. -/
def readBe32 (frame : Bytes) (offset : Nat) : Parser UInt32 where
  value := rdBe32 frame offset
  steps := (List.range' offset 4).map .read

/-- Read the 12-bit body length of the parameter set at a position. -/
def readBodyLen (frame : Bytes) (pos : Nat) : Parser Nat := do
  let high ← readOctet frame (pos + 2)
  let low ← readOctet frame (pos + 3)
  pure ((high &&& 0x0F).toNat * 256 + low.toNat)

/-- Whether a frame is an EAPOL-MKA frame, with the log of the test. -/
def isEapolMkaRun (frame : Bytes) : Parser Bool :=
  if frame.length < 18 then
    pure false
  else do
    let ethertype ← readBe16 frame 12
    if ethertype ≠ ethertypeEapol then
      pure false
    else do
      let eapolType ← readOctet frame 15
      pure (eapolType == eapolTypeMka)

/-- The parser of the Basic Parameter Set, with its log. -/
def parseBasicRun (frame : Bytes) : Parser (Except Err Basic) :=
  if frame.length < 14 + 4 + 4 + 28 + 16 then
    pure (.error .buffer)
  else do
    let dstMac ← readOctets frame 0 6
    let srcMac ← readOctets frame 6 6
    let ethertype ← readBe16 frame 12
    if ethertype ≠ ethertypeEapol then
      pure (.error .param)
    else do
      let eapolVersion ← readOctet frame 14
      let eapolType ← readOctet frame 15
      let eapolLength ← readBe16 frame 16
      let eapolLen := eapolLength.toNat
      if eapolType ≠ eapolTypeMka then
        pure (.error .unsupported)
      else if frame.length < 14 + 4 + eapolLen then
        pure (.error .buffer)
      else if eapolLen < 4 + 28 + icvLen then
        pure (.error .buffer)
      else do
        let mkaVersion ← readOctet frame 18
        let keyServerPriority ← readOctet frame 19
        let flags ← readOctet frame 20
        let bodyLen ← readBodyLen frame basicOffset
        if bodyLen < 28 then
          pure (.error .buffer)
        else
          let basicEndOffset := 18 + 4 + bodyLen
          let icvOffset := 14 + 4 + eapolLen - icvLen
          if basicEndOffset > icvOffset then
            pure (.error .buffer)
          else if icvOffset + icvLen > frame.length then
            pure (.error .buffer)
          else do
            let sci ← readOctets frame 22 8
            let actorMi ← readOctets frame 30 12
            let actorMn ← readBe32 frame 42
            let algorithmAgility ← readBe32 frame 46
            let cakNameLen := bodyLen - 28
            if cakNameLen > caNameMaxLen then
              pure (.error .buffer)
            else do
              let cakName ← readOctets frame 50 cakNameLen
              let icv ← readOctets frame icvOffset 16
              pure (.ok
                { dstMac, srcMac, eapolVersion, eapolType, eapolLen, mkaVersion
                  keyServerPriority
                  keyServer := flags &&& 0x80 != 0
                  macsecDesired := flags &&& 0x40 != 0
                  macsecCapability := flags >>> 4 &&& 0x03
                  bodyLen, sci, actorMi, actorMn, algorithmAgility
                  cakName := cakName.1
                  icv })

/-- The walk over the parameter sets, with the fields that a scan reads from the
header of a set besides its body length. -/
def walkRun {η ρ : Type} (frame : Bytes) (finish : Nat) (overflow done : ρ)
    (header : Nat → Parser η) (visit : η → Nat → Nat → Parser (Option ρ))
    (pos : Nat) : Parser ρ :=
  if pos + 4 ≤ finish then
    if pos = basicOffset then do
      Traced.log (.set pos true)
      let bodyLen ← readBodyLen frame pos
      if pos + 4 + bodyLen > finish then
        pure overflow
      else
        walkRun frame finish overflow done header visit (pos + 4 + bodyLen)
    else do
      Traced.log (.set pos false)
      let fields ← header pos
      let bodyLen ← readBodyLen frame pos
      if pos + 4 + bodyLen > finish then
        pure overflow
      else do
        let found ← visit fields pos bodyLen
        match found with
        | some result => pure result
        | none =>
            walkRun frame finish overflow done header visit
              (pos + 4 + bodyLen)
  else
    pure done
termination_by finish - pos

/-- The search in a peer list, with its log. -/
def findPeerEntryRun (frame : Bytes) (mi : Octets 12) (listType : UInt8)
    (bodyEnd pos : Nat) : Parser (Option (UInt32 × UInt8)) :=
  if pos + 16 ≤ bodyEnd then do
    Traced.log (.entry pos)
    let entry ← readOctets frame pos 12
    if compare entry.1 mi.1 = 0 then do
      let mn ← readBe32 frame (pos + 12)
      pure (some (mn, listType))
    else
      findPeerEntryRun frame mi listType bodyEnd (pos + 16)
  else
    pure none
termination_by bodyEnd - pos

/-- The checks in front of a walk, with the EAPOL length they read. -/
def scanRun {ρ : Type} (frame : Bytes) (short inconsistent : ρ)
    (scan : Nat → Parser ρ) : Parser ρ :=
  if frame.length < 90 then
    pure short
  else do
    let eapolLength ← readBe16 frame 16
    let eapolLen := eapolLength.toNat
    let finish := 14 + 4 + eapolLen - icvLen
    if eapolLen < icvLen then
      pure inconsistent
    else if finish > frame.length then
      pure inconsistent
    else
      scan finish

/-- The visit of the peer list scan. -/
def visitPeerList (frame : Bytes) (mi : Octets 12) (type : UInt8)
    (pos bodyLen : Nat) : Parser (Option (Option (UInt32 × UInt8))) :=
  if type = paramLivePeerList ∨ type = paramPotentialPeerList then do
    let found ←
      findPeerEntryRun frame mi type (pos + 4 + bodyLen) (pos + 4)
    pure (found.map some)
  else
    pure none

/-- The search in all peer lists of a frame, with its log. -/
def frameContainsPeerEntryRun (frame : Bytes) (mi : Octets 12) :
    Parser (Option (UInt32 × UInt8)) :=
  scanRun frame none none fun finish =>
    walkRun frame finish none none (readOctet frame)
      (visitPeerList frame mi) basicOffset

/-- The reading of a Distributed SAK, with its log. -/
def readDistributedSakRun (aes : BlockCipher) (crypto : MkaCrypto.Ctx)
    (frame : Bytes) (pos bodyLen : Nat) : Parser (Except Err DistributedSak) :=
  let bodyPos := pos + 4
  let wrappedSakLen := bodyLen - 4
  if bodyLen < 4 + 24 then
    pure (.error .buffer)
  else do
    let keyNumber ← readBe32 frame bodyPos
    if keyNumberNonzero : keyNumber ≠ 0 then do
      let flags ← readOctet frame (pos + 1)
      if wrappedSakLen ≠ 24 ∧ wrappedSakLen ≠ 40 then
        pure (.error .buffer)
      else do
        let wrappedSak ← readOctets frame (bodyPos + 4) wrappedSakLen
        pure
          (match MkaCrypto.unwrapSak aes crypto wrappedSak.1 32 with
          | .error ret => .error ret
          | .ok sak =>
              if sakLen : sakLenValid sak.length = true then
                .ok
                  { an := flagsAn flags
                    keyNumber, sak, keyNumberNonzero, sakLen }
              else
                .error .buffer)
    else
      pure (.error .buffer)

/-- The visit of the Distributed SAK scan. -/
def visitDistributedSak (aes : BlockCipher) (crypto : MkaCrypto.Ctx)
    (frame : Bytes) (type : UInt8) (pos bodyLen : Nat) :
    Parser (Option (Except Err DistributedSak)) :=
  if type = paramDistributedSak then do
    let result ← readDistributedSakRun aes crypto frame pos bodyLen
    pure (some result)
  else
    pure none

/-- The scan for a Distributed SAK, with its log. -/
def scanDistributedSakRun (aes : BlockCipher) (crypto : MkaCrypto.Ctx)
    (frame : Bytes) : Parser (Except Err DistributedSak) :=
  scanRun frame (.error .notReady) (.error .buffer) fun finish =>
    walkRun frame finish (.error .buffer) (.error .notReady) (readOctet frame)
      (visitDistributedSak aes crypto frame) basicOffset

/-- The type and the flags of a set. -/
def readTypeFlags (frame : Bytes) (pos : Nat) : Parser (UInt8 × UInt8) := do
  let type ← readOctet frame pos
  let flags ← readOctet frame (pos + 1)
  pure (type, flags)

/-- The reading of SAK Use, with its log. -/
def readSakUseRun (frame : Bytes) (flags : UInt8) (pos bodyLen : Nat) :
    Parser (Except Err SakUse) :=
  let bodyPos := pos + 4
  if bodyLen < 40 then
    pure (.error .buffer)
  else do
    let keyServerMi ← readOctets frame bodyPos 12
    let keyNumber ← readBe32 frame (bodyPos + 12)
    pure (.ok
      { keyServerMi, keyNumber
        an := flagsAn flags
        latestTx := flags &&& 0x20 != 0
        latestRx := flags &&& 0x10 != 0 })

/-- The visit of the SAK Use scan. -/
def visitSakUse (frame : Bytes) (fields : UInt8 × UInt8) (pos bodyLen : Nat) :
    Parser (Option (Except Err SakUse)) :=
  if fields.1 = paramSakUse then do
    let result ← readSakUseRun frame fields.2 pos bodyLen
    pure (some result)
  else
    pure none

/-- The scan for SAK Use, with its log. -/
def scanSakUseRun (frame : Bytes) : Parser (Except Err SakUse) :=
  scanRun frame (.error .notReady) (.error .buffer) fun finish =>
    walkRun frame finish (.error .buffer) (.error .notReady)
      (readTypeFlags frame) (visitSakUse frame) basicOffset

/-! ## The logging parsers compute what the parsers compute -/

variable {frame : Bytes}

theorem value_readBodyLen (pos : Nat) :
    (readBodyLen frame pos).value = bodyLenAt frame pos := rfl

theorem value_isEapolMkaRun (frame : Bytes) :
    (isEapolMkaRun frame).value = isEapolMka frame := by
  unfold isEapolMkaRun isEapolMka
  split
  next => rfl
  next =>
      rw [Traced.value_bind]
      change Traced.value
        (if rdBe16 frame 12 ≠ ethertypeEapol then _ else _) = _
      split
      next => rfl
      next => rfl

theorem value_parseBasicRun (frame : Bytes) :
    (parseBasicRun frame).value = parseBasic frame := by
  simp only [parseBasicRun, parseBasic, apply_ite Traced.value,
    Traced.value_bind, Traced.value_pure]
  rfl

theorem value_walkRun {η ρ : Type} {finish : Nat} {overflow done : ρ}
    {header : Nat → Parser η} {visit : η → Nat → Nat → Parser (Option ρ)}
    {visited : UInt8 → UInt8 → Nat → Nat → Option ρ}
    (same : ∀ pos bodyLen,
      (visit (header pos).value pos bodyLen).value =
        visited (frame.octetAt pos) (frame.octetAt (pos + 1)) (pos + 4)
          bodyLen)
    (pos : Nat) :
    (walkRun frame finish overflow done header visit pos).value =
      walk frame finish overflow done visited pos := by
  fun_induction walk frame finish overflow done visited pos with
  | case1 pos fits bodyLen bodyEnd overflows =>
      rw [walkRun, if_pos fits]
      split
      next =>
          simp only [Traced.value_bind, apply_ite Traced.value]
          exact if_pos overflows
      next =>
          simp only [Traced.value_bind, apply_ite Traced.value]
          exact if_pos overflows
  | case2 fits bodyLen bodyEnd inside ih =>
      rw [walkRun, if_pos fits, if_pos rfl]
      simp only [Traced.value_bind, apply_ite Traced.value]
      exact (if_neg inside).trans ih
  | case3 pos fits bodyLen bodyEnd inside notBasic result found =>
      rw [walkRun, if_pos fits, if_neg notBasic]
      simp only [Traced.value_bind, apply_ite Traced.value]
      refine (if_neg inside).trans ?_
      have stops := (same pos bodyLen).trans found
      change Traced.value (match (visit _ pos bodyLen).value with
        | some result => pure result
        | none => _) = result
      rw [stops]
      rfl
  | case4 pos fits bodyLen bodyEnd inside notBasic notFound ih =>
      rw [walkRun, if_pos fits, if_neg notBasic]
      simp only [Traced.value_bind, apply_ite Traced.value]
      refine (if_neg inside).trans ?_
      have goesOn := (same pos bodyLen).trans notFound
      change Traced.value (match (visit _ pos bodyLen).value with
        | some result => pure result
        | none => _) = _
      rw [goesOn]
      exact ih
  | case5 pos outside =>
      rw [walkRun, if_neg outside]
      rfl

theorem value_findPeerEntryRun (mi : Octets 12) (listType : UInt8)
    (bodyEnd pos : Nat) :
    (findPeerEntryRun frame mi listType bodyEnd pos).value =
      findPeerEntry frame mi listType bodyEnd pos := by
  fun_induction findPeerEntry frame mi listType bodyEnd pos with
  | case1 pos fits same =>
      rw [findPeerEntryRun, if_pos fits]
      simp only [Traced.value_bind, apply_ite Traced.value]
      exact if_pos same
  | case2 pos fits other ih =>
      rw [findPeerEntryRun, if_pos fits]
      simp only [Traced.value_bind, apply_ite Traced.value]
      exact (if_neg other).trans ih
  | case3 pos outside =>
      rw [findPeerEntryRun, if_neg outside]
      rfl

theorem value_readDistributedSakRun (aes : BlockCipher)
    (crypto : MkaCrypto.Ctx) (pos bodyLen : Nat) :
    (readDistributedSakRun aes crypto frame pos bodyLen).value =
      readDistributedSak aes crypto frame (frame.octetAt (pos + 1)) (pos + 4)
        bodyLen := by
  unfold readDistributedSakRun readDistributedSak
  simp only [apply_ite Traced.value, apply_dite Traced.value,
    Traced.value_bind, Traced.value_pure]
  rfl

theorem value_readSakUseRun (flags : UInt8) (pos bodyLen : Nat) :
    (readSakUseRun frame flags pos bodyLen).value =
      readSakUse frame flags (pos + 4) bodyLen := by
  unfold readSakUseRun readSakUse
  simp only [apply_ite Traced.value, Traced.value_bind, Traced.value_pure]
  rfl

/-- A scan whose walk computes a walk. -/
theorem value_scanRun {ρ : Type} {short inconsistent : ρ}
    {scan : Nat → Parser ρ} {scanned : Nat → ρ}
    (same : ∀ finish, (scan finish).value = scanned finish) :
    (scanRun frame short inconsistent scan).value =
      if frame.length < 90 then
        short
      else
        match paramSetsEnd frame with
        | none => inconsistent
        | some finish => scanned finish := by
  unfold scanRun
  split
  next => rfl
  next =>
      simp only [Traced.value_bind, apply_ite Traced.value, Traced.value_pure,
        same]
      change (if (rdBe16 frame 16).toNat < icvLen then _ else _) = _
      unfold paramSetsEnd
      dsimp only
      split
      next => rfl
      next =>
          change (if 14 + 4 + (rdBe16 frame 16).toNat - icvLen > frame.length
            then _ else _) = _
          split
          next => rfl
          next => rfl

theorem value_frameContainsPeerEntryRun (frame : Bytes) (mi : Octets 12) :
    (frameContainsPeerEntryRun frame mi).value =
      frameContainsPeerEntry frame mi := by
  refine value_scanRun fun finish => value_walkRun ?_ basicOffset
  intro pos bodyLen
  unfold visitPeerList
  simp only [apply_ite Traced.value, Traced.value_bind,
    value_findPeerEntryRun, Traced.value_pure]
  rfl

theorem value_scanDistributedSakRun (aes : BlockCipher)
    (crypto : MkaCrypto.Ctx) (frame : Bytes) :
    (scanDistributedSakRun aes crypto frame).value =
      scanDistributedSak aes crypto frame := by
  refine value_scanRun fun finish => value_walkRun ?_ basicOffset
  intro pos bodyLen
  unfold visitDistributedSak
  simp only [apply_ite Traced.value, Traced.value_bind,
    value_readDistributedSakRun, Traced.value_pure]
  rfl

theorem value_scanSakUseRun (frame : Bytes) :
    (scanSakUseRun frame).value = scanSakUse frame := by
  refine value_scanRun fun finish => value_walkRun ?_ basicOffset
  intro pos bodyLen
  unfold visitSakUse
  simp only [apply_ite Traced.value, Traced.value_bind,
    value_readSakUseRun, Traced.value_pure]
  rfl

/-! ## Reads -/

namespace Access

/-- The index an access reads. -/
def readIndex : Access → Option Nat
  | .read index => some index
  | _ => none

/-- The parameter set an access reaches. -/
def reachedSet : Access → Option (Nat × Bool)
  | .set pos basic => some (pos, basic)
  | _ => none

/-- The peer list entry an access reaches. -/
def reachedEntry : Access → Option Nat
  | .entry pos => some pos
  | _ => none

/-- An access that, if it reads, reads below an index. -/
def Below (finish : Nat) (access : Access) : Prop :=
  ∀ index ∈ access.readIndex, index < finish

/-- An access that reads, below an index. -/
def ReadsBelow (finish : Nat) : Access → Prop
  | .read index => index < finish
  | _ => False

variable {finish : Nat} {access : Access}

theorem ReadsBelow.weaken {larger : Nat} (inside : finish ≤ larger)
    (reads : access.ReadsBelow finish) : access.ReadsBelow larger := by
  cases access with
  | read index => exact Nat.lt_of_lt_of_le reads inside
  | set pos basic => exact reads
  | entry pos => exact reads

theorem ReadsBelow.below (reads : access.ReadsBelow finish) :
    access.Below finish := by
  cases access with
  | read index =>
      intro other same
      cases same
      exact reads
  | set pos basic => exact reads.elim
  | entry pos => exact reads.elim

theorem ReadsBelow.reachedSet (reads : access.ReadsBelow finish) :
    access.reachedSet = none := by
  cases access with
  | read index => rfl
  | set pos basic => exact reads.elim
  | entry pos => rfl

theorem ReadsBelow.reachedEntry (reads : access.ReadsBelow finish) :
    access.reachedEntry = none := by
  cases access with
  | read index => rfl
  | set pos basic => rfl
  | entry pos => exact reads.elim

end Access

/-- A parser that only reads, below an index. -/
def ReadsBelow {α : Type} (finish : Nat) (run : Parser α) : Prop :=
  Traced.All (Access.ReadsBelow finish) run

/-- The parameter sets that a run reaches. -/
def reachedSets {α : Type} (run : Parser α) : List (Nat × Bool) :=
  run.collect Access.reachedSet

/-- The peer list entries that a run reaches. -/
def reachedEntries {α : Type} (run : Parser α) : List Nat :=
  run.collect Access.reachedEntry

theorem reachedSets_bind {α β : Type} (run : Parser α) (next : α → Parser β) :
    reachedSets (run >>= next) =
      reachedSets run ++ reachedSets (next run.value) :=
  Traced.collect_bind _ run next

theorem reachedEntries_bind {α β : Type} (run : Parser α)
    (next : α → Parser β) :
    reachedEntries (run >>= next) =
      reachedEntries run ++ reachedEntries (next run.value) :=
  Traced.collect_bind _ run next

section ReadsBelow

variable {α : Type} {finish pos count : Nat}

theorem ReadsBelow.below {run : Parser α} (reads : ReadsBelow finish run) :
    Traced.All (Access.Below finish) run :=
  reads.mono fun _ => Access.ReadsBelow.below

theorem ReadsBelow.reachedSets {run : Parser α}
    (reads : ReadsBelow finish run) : reachedSets run = [] :=
  Traced.collect_eq_nil _ (reads.mono fun _ => Access.ReadsBelow.reachedSet)

theorem ReadsBelow.reachedEntries {run : Parser α}
    (reads : ReadsBelow finish run) : reachedEntries run = [] :=
  Traced.collect_eq_nil _ (reads.mono fun _ => Access.ReadsBelow.reachedEntry)

/-- Reading a range of octets below an index. -/
theorem readsBelow_range {value : α} (inside : pos + count ≤ finish) :
    ReadsBelow finish
      (⟨value, (List.range' pos count).map .read⟩ : Parser α) := by
  intro access member
  obtain ⟨index, inRange, rfl⟩ := List.mem_map.mp member
  have bounded := (List.mem_range'_1.mp inRange).2
  change index < finish
  omega

theorem readsBelow_readOctet (inside : pos + 1 ≤ finish) :
    ReadsBelow finish (readOctet frame pos) :=
  readsBelow_range inside

theorem readsBelow_readOctets (inside : pos + count ≤ finish) :
    ReadsBelow finish (readOctets frame pos count) :=
  readsBelow_range inside

theorem readsBelow_readBe16 (inside : pos + 2 ≤ finish) :
    ReadsBelow finish (readBe16 frame pos) :=
  readsBelow_range inside

theorem readsBelow_readBe32 (inside : pos + 4 ≤ finish) :
    ReadsBelow finish (readBe32 frame pos) :=
  readsBelow_range inside

theorem readsBelow_readBodyLen (inside : pos + 4 ≤ finish) :
    ReadsBelow finish (readBodyLen frame pos) :=
  .bind (readsBelow_readOctet (by omega))
    (.bind (readsBelow_readOctet (by omega)) (.pure _))

theorem readsBelow_readTypeFlags (inside : pos + 4 ≤ finish) :
    ReadsBelow finish (readTypeFlags frame pos) :=
  .bind (readsBelow_readOctet (by omega))
    (.bind (readsBelow_readOctet (by omega)) (.pure _))

theorem readsBelow_isEapolMkaRun (frame : Bytes) :
    ReadsBelow frame.length (isEapolMkaRun frame) := by
  unfold isEapolMkaRun
  refine .ite (fun _ => .pure _) fun long => ?_
  refine .bind (readsBelow_readBe16 (by omega)) ?_
  refine .ite (fun _ => .pure _) fun _ => ?_
  exact .bind (readsBelow_readOctet (by omega)) (.pure _)

/-- The basic parser reads below the end of the frame and below the end of the
EAPOL body. -/
theorem readsBelow_parseBasicRun (frame : Bytes) :
    ReadsBelow (min frame.length (18 + (rdBe16 frame 16).toNat))
      (parseBasicRun frame) := by
  unfold parseBasicRun
  refine .ite (fun _ => .pure _) fun long => ?_
  refine .bind (readsBelow_readOctets (by omega)) ?_
  refine .bind (readsBelow_readOctets (by omega)) ?_
  refine .bind (readsBelow_readBe16 (by omega)) ?_
  refine .ite (fun _ => .pure _) fun _ => ?_
  refine .bind (readsBelow_readOctet (by omega)) ?_
  refine .bind (readsBelow_readOctet (by omega)) ?_
  refine .bind (readsBelow_readBe16 (by omega)) ?_
  refine .ite (fun _ => .pure _) fun _ => ?_
  refine .ite (fun _ => .pure _) fun complete => ?_
  refine .ite (fun _ => .pure _) fun sufficient => ?_
  change ¬frame.length < 14 + 4 + (rdBe16 frame 16).toNat at complete
  change ¬(rdBe16 frame 16).toNat < 4 + 28 + 16 at sufficient
  refine .bind (readsBelow_readOctet (by omega)) ?_
  refine .bind (readsBelow_readOctet (by omega)) ?_
  refine .bind (readsBelow_readOctet (by omega)) ?_
  refine .bind (readsBelow_readBodyLen
    (by change 18 + 4 ≤ _; omega)) ?_
  refine .ite (fun _ => .pure _) fun _ => ?_
  refine .ite (fun _ => .pure _) fun beforeIcv => ?_
  refine .ite (fun _ => .pure _) fun _ => ?_
  change ¬18 + 4 + bodyLenAt frame basicOffset >
    14 + 4 + (rdBe16 frame 16).toNat - 16 at beforeIcv
  refine .bind (readsBelow_readOctets (by omega)) ?_
  refine .bind (readsBelow_readOctets (by omega)) ?_
  refine .bind (readsBelow_readBe32 (by omega)) ?_
  refine .bind (readsBelow_readBe32 (by omega)) ?_
  refine .ite (fun _ => .pure _) fun _ => ?_
  refine .bind (readsBelow_readOctets ?_) ?_
  · change 50 + (bodyLenAt frame basicOffset - 28) ≤ _
    omega
  refine .bind (readsBelow_readOctets ?_) (.pure _)
  change 14 + 4 + (rdBe16 frame 16).toNat - 16 + 16 ≤ _
  omega

end ReadsBelow

/-! ## Positions -/

/-- Positions that only move forward, from one position to before another. -/
structure Forward (first finish : Nat) (positions : List Nat) : Prop where
  ascending : positions.Pairwise (· < ·)
  within : ∀ pos ∈ positions, first ≤ pos ∧ pos < finish

namespace Forward

variable {first middle finish pos : Nat} {positions later : List Nat}

theorem nil : Forward first finish [] where
  ascending := .nil
  within _ member := absurd member List.not_mem_nil

theorem append (forward : Forward first middle positions)
    (onward : Forward middle finish later) (start : first ≤ middle)
    (stop : middle ≤ finish) :
    Forward first finish (positions ++ later) where
  ascending := by
    refine List.pairwise_append.mpr
      ⟨forward.ascending, onward.ascending, ?_⟩
    intro pos earlier next onwards
    have before := (forward.within pos earlier).2
    have behind := (onward.within next onwards).1
    omega
  within pos member := by
    rcases List.mem_append.mp member with earlier | onwards
    · have bounds := forward.within pos earlier
      omega
    · have bounds := onward.within pos onwards
      omega

theorem cons (onward : Forward middle finish later) (start : pos < middle)
    (stop : middle ≤ finish) : Forward pos finish (pos :: later) where
  ascending := by
    refine List.pairwise_cons.mpr ⟨?_, onward.ascending⟩
    intro next onwards
    have behind := (onward.within next onwards).1
    omega
  within next member := by
    rcases List.mem_cons.mp member with rfl | onwards
    · omega
    · have bounds := onward.within next onwards
      omega

theorem singleton (inside : pos < finish) : Forward pos finish [pos] :=
  nil.cons inside (le_refl finish)

theorem weaken (forward : Forward middle finish positions)
    (start : first ≤ middle) : Forward first finish positions where
  ascending := forward.ascending
  within pos member := by
    have bounds := forward.within pos member
    omega

theorem sublist (forward : Forward first finish positions)
    (part : later.Sublist positions) : Forward first finish later where
  ascending := forward.ascending.sublist part
  within pos member := forward.within pos (part.subset member)

end Forward

/-! ## Walks -/

/-- The parameter sets of a frame from a position on, up to the first one that
reaches beyond the end, each with whether it is the Basic one. -/
def boundaries (frame : Bytes) (finish pos : Nat) : List (Nat × Bool) :=
  if pos + 4 ≤ finish then
    let set := (pos, decide (pos = basicOffset))
    let bodyEnd := pos + 4 + bodyLenAt frame pos
    if bodyEnd > finish then [set]
    else set :: boundaries frame finish bodyEnd
  else
    []
termination_by finish - pos

theorem boundaries_forward (frame : Bytes) (finish pos : Nat) :
    Forward pos finish ((boundaries frame finish pos).map Prod.fst) := by
  fun_induction boundaries frame finish pos with
  | case1 pos fits set bodyEnd overflows =>
      exact .singleton (by omega)
  | case2 pos fits set bodyEnd inside ih =>
      exact ih.cons (by omega) (by omega)
  | case3 pos outside => exact .nil

/-- Behind the Basic Parameter Set no set is treated as the Basic one. -/
theorem boundaries_not_basic {finish pos : Nat} (behind : basicOffset < pos) :
    (boundaries frame finish pos).filter Prod.snd = [] := by
  fun_induction boundaries frame finish pos with
  | case1 pos fits set bodyEnd overflows =>
      have other : set.2 = false := decide_eq_false (Nat.ne_of_gt behind)
      simp [other]
  | case2 pos fits set bodyEnd inside ih =>
      have other : set.2 = false := decide_eq_false (Nat.ne_of_gt behind)
      rw [List.filter_cons_of_neg (by simp [other])]
      exact ih (by omega)
  | case3 pos outside => rfl

/-- Exactly the set at offset 18 is treated as the Basic one. -/
theorem boundaries_basic {finish : Nat} (fits : basicOffset + 4 ≤ finish) :
    ∃ later,
      boundaries frame finish basicOffset = (basicOffset, true) :: later ∧
        later.filter Prod.snd = [] := by
  rw [boundaries, if_pos fits]
  dsimp only
  split
  next => exact ⟨[], rfl, rfl⟩
  next => exact ⟨_, rfl, boundaries_not_basic (by omega)⟩

/-- The sets that a scan reaches: the parameter sets in their order, all of them
unless the last one reached is one the scan is about. -/
structure WalksAlong (frame : Bytes) (about : UInt8 → Prop)
    (sets bounds : List (Nat × Bool)) : Prop where
  along : sets <+: bounds
  complete : sets ≠ bounds →
    ∃ last ∈ sets.getLast?, about (frame.octetAt last.1)

namespace WalksAlong

variable {about : UInt8 → Prop} {sets bounds : List (Nat × Bool)}

theorem refl : WalksAlong frame about bounds bounds where
  along := List.prefix_rfl
  complete differ := absurd rfl differ

theorem cons (walks : WalksAlong frame about sets bounds)
    (set : Nat × Bool) :
    WalksAlong frame about (set :: sets) (set :: bounds) where
  along := List.cons_prefix_cons.mpr ⟨rfl, walks.along⟩
  complete differ := by
    have differs : sets ≠ bounds :=
      fun same => differ (congrArg (set :: ·) same)
    obtain ⟨last, isLast, concerned⟩ := walks.complete differs
    refine ⟨last, ?_, concerned⟩
    rw [Option.mem_def] at isLast ⊢
    rw [List.getLast?_cons, isLast]
    rfl

/-- A scan that stops at a set it is about. -/
theorem stop {set : Nat × Bool} (concerned : about (frame.octetAt set.1)) :
    WalksAlong frame about [set] (set :: bounds) where
  along := List.cons_prefix_cons.mpr ⟨rfl, List.nil_prefix⟩
  complete _ := ⟨set, rfl, concerned⟩

/-- A scan treats exactly the set at offset 18 as the Basic one. -/
theorem basicOnce {finish : Nat} (fits : basicOffset + 4 ≤ finish)
    (walks : WalksAlong frame about sets
      (boundaries frame finish basicOffset)) :
    sets.filter Prod.snd = [(basicOffset, true)] := by
  obtain ⟨later, bounds, othersLater⟩ := @boundaries_basic frame finish fits
  rw [bounds] at walks
  cases sets with
  | nil =>
      obtain ⟨last, isLast, -⟩ := walks.complete (List.cons_ne_nil _ _).symm
      cases isLast
  | cons set others =>
      obtain ⟨same, along⟩ := List.cons_prefix_cons.mp walks.along
      have none := along.sublist.filter Prod.snd
      rw [othersLater, List.sublist_nil] at none
      rw [same, List.filter_cons_of_pos rfl, none]

end WalksAlong

/-- What a walk from a position on keeps to. -/
structure WalkKeeps {ρ : Type} (frame : Bytes) (finish : Nat)
    (about : UInt8 → Prop) (pos : Nat) (run : Parser ρ) : Prop where
  below : Traced.All (Access.Below finish) run
  sets : WalksAlong frame about (reachedSets run) (boundaries frame finish pos)
  entries : Forward pos finish (reachedEntries run)

/-- What a walk keeps to once it has reached a set at a position. -/
structure SetKeeps {ρ : Type} (frame : Bytes) (finish : Nat)
    (about : UInt8 → Prop) (pos : Nat) (run : Parser ρ) : Prop where
  below : Traced.All (Access.Below finish) run
  sets : WalksAlong frame about
    ((pos, decide (pos = basicOffset)) :: reachedSets run)
    (boundaries frame finish pos)
  entries : Forward pos finish (reachedEntries run)

section Walks

variable {α ρ : Type} {finish pos : Nat} {about : UInt8 → Prop}

/-- A walk at the end of the parameter sets. -/
theorem WalkKeeps.outside {done : ρ} (beyond : ¬pos + 4 ≤ finish) :
    WalkKeeps frame finish about pos (pure done : Parser ρ) where
  below := .pure _
  sets := by
    rw [boundaries, if_neg beyond]
    exact .refl
  entries := .nil

/-- A walk that reaches a set. -/
theorem SetKeeps.reached {run : Parser ρ} {basic : Bool}
    (isBasic : decide (pos = basicOffset) = basic)
    (keeps : SetKeeps frame finish about pos run) :
    WalkKeeps frame finish about pos
      (do Traced.log (.set pos basic); run) where
  below := .bind (.log fun _ none => nomatch none) keeps.below
  sets := by
    rw [← isBasic]
    exact keeps.sets
  entries := keeps.entries

/-- A walk behind a reading of the frame. -/
theorem WalkKeeps.afterReads {first : Parser α} {next : α → Parser ρ}
    (keeps : WalkKeeps frame finish about pos (next first.value))
    (quiet : ReadsBelow finish first) :
    WalkKeeps frame finish about pos (first >>= next) where
  below := .bind quiet.below keeps.below
  sets := by
    rw [reachedSets_bind, quiet.reachedSets]
    exact keeps.sets
  entries := by
    rw [reachedEntries_bind, quiet.reachedEntries]
    exact keeps.entries

namespace SetKeeps

/-- The walk reads a field of the set. -/
theorem reads {first : Parser α} {next : α → Parser ρ}
    (quiet : ReadsBelow finish first)
    (keeps : SetKeeps frame finish about pos (next first.value)) :
    SetKeeps frame finish about pos (first >>= next) where
  below := .bind quiet.below keeps.below
  sets := by
    rw [reachedSets_bind, quiet.reachedSets]
    exact keeps.sets
  entries := by
    rw [reachedEntries_bind, quiet.reachedEntries]
    exact keeps.entries

/-- The set reaches beyond the end. -/
theorem truncated {overflow : ρ} (fits : pos + 4 ≤ finish)
    (beyond : pos + 4 + bodyLenAt frame pos > finish) :
    SetKeeps frame finish about pos (pure overflow : Parser ρ) where
  below := .pure _
  sets := by
    rw [boundaries, if_pos fits]
    dsimp only
    rw [if_pos beyond]
    exact .refl
  entries := .nil

/-- The walk goes on behind the set. -/
theorem onward {run : Parser ρ} (fits : pos + 4 ≤ finish)
    (inside : ¬pos + 4 + bodyLenAt frame pos > finish)
    (keeps : WalkKeeps frame finish about (pos + 4 + bodyLenAt frame pos) run) :
    SetKeeps frame finish about pos run where
  below := keeps.below
  sets := by
    rw [boundaries, if_pos fits]
    dsimp only
    rw [if_neg inside]
    exact keeps.sets.cons _
  entries := keeps.entries.weaken (by omega)

end SetKeeps

/-- What a run keeps to that stays inside a set, from one position to before
another. -/
structure EntriesKeep (finish first last : Nat) (run : Parser α) : Prop where
  below : Traced.All (Access.Below finish) run
  sets : reachedSets run = []
  entries : Forward first last (reachedEntries run)

/-- What the visit of a set keeps to. -/
abbrev VisitKeeps (finish pos bodyLen : Nat) (visit : Parser α) : Prop :=
  EntriesKeep finish (pos + 4) (pos + 4 + bodyLen) visit

/-- The visit of a set ends the walk. -/
theorem VisitKeeps.stop {visit : Parser (Option ρ)} {result : ρ}
    {next : Option ρ → Parser ρ} (fits : pos + 4 ≤ finish)
    (inside : ¬pos + 4 + bodyLenAt frame pos > finish)
    (keeps : VisitKeeps finish pos (bodyLenAt frame pos) visit)
    (found : visit.value = some result)
    (stops : next (some result) = pure result)
    (concerned : about (frame.octetAt pos)) :
    SetKeeps frame finish about pos (visit >>= next) where
  below := by
    refine .bind keeps.below ?_
    rw [found, stops]
    exact .pure _
  sets := by
    rw [reachedSets_bind, keeps.sets, found, stops, boundaries, if_pos fits]
    dsimp only
    rw [if_neg inside]
    exact WalksAlong.stop concerned
  entries := by
    rw [reachedEntries_bind, found, stops]
    exact (keeps.entries.weaken (by omega)).append
      (.nil : Forward (pos + 4 + bodyLenAt frame pos) finish _)
      (by omega) (by omega)

/-- The walk goes on behind a set that it has visited. -/
theorem VisitKeeps.onward {visit : Parser (Option ρ)}
    {next : Option ρ → Parser ρ} (fits : pos + 4 ≤ finish)
    (inside : ¬pos + 4 + bodyLenAt frame pos > finish)
    (keeps : VisitKeeps finish pos (bodyLenAt frame pos) visit)
    (walks : WalkKeeps frame finish about (pos + 4 + bodyLenAt frame pos)
      (next visit.value)) :
    SetKeeps frame finish about pos (visit >>= next) where
  below := .bind keeps.below walks.below
  sets := by
    rw [reachedSets_bind, keeps.sets]
    exact (SetKeeps.onward fits inside walks).sets
  entries := by
    rw [reachedEntries_bind]
    exact (keeps.entries.weaken (by omega)).append walks.entries
      (by omega) (by omega)

/-- A walk keeps to the bounds when its visits do. -/
theorem walkRun_keeps {η : Type} {overflow done : ρ} {header : Nat → Parser η}
    {visit : η → Nat → Nat → Parser (Option ρ)}
    (headerReads : ∀ pos, pos + 4 ≤ finish → ReadsBelow finish (header pos))
    (visitKeeps : ∀ pos bodyLen, pos + 4 + bodyLen ≤ finish →
      VisitKeeps finish pos bodyLen (visit (header pos).value pos bodyLen))
    (concerned : ∀ pos bodyLen,
      (visit (header pos).value pos bodyLen).value ≠ none →
        about (frame.octetAt pos))
    (pos : Nat) :
    WalkKeeps frame finish about pos
      (walkRun frame finish overflow done header visit pos) := by
  fun_induction boundaries frame finish pos with
  | case1 pos fits set bodyEnd overflows =>
      rw [walkRun, if_pos fits]
      split
      next basic =>
          refine SetKeeps.reached (decide_eq_true basic) ?_
          refine .reads (readsBelow_readBodyLen fits) ?_
          rw [value_readBodyLen, if_pos overflows]
          exact .truncated fits overflows
      next notBasic =>
          refine SetKeeps.reached (decide_eq_false notBasic) ?_
          refine .reads (headerReads pos fits) ?_
          refine .reads (readsBelow_readBodyLen fits) ?_
          rw [value_readBodyLen, if_pos overflows]
          exact .truncated fits overflows
  | case2 pos fits set bodyEnd inside ih =>
      rw [walkRun, if_pos fits]
      split
      next basic =>
          refine SetKeeps.reached (decide_eq_true basic) ?_
          refine .reads (readsBelow_readBodyLen fits) ?_
          rw [value_readBodyLen, if_neg inside]
          exact .onward fits inside ih
      next notBasic =>
          refine SetKeeps.reached (decide_eq_false notBasic) ?_
          refine .reads (headerReads pos fits) ?_
          refine .reads (readsBelow_readBodyLen fits) ?_
          rw [value_readBodyLen, if_neg inside]
          have keeps :=
            visitKeeps pos (bodyLenAt frame pos) (Nat.not_lt.mp inside)
          cases visited : (visit (header pos).value pos
              (bodyLenAt frame pos)).value with
          | some result =>
              refine keeps.stop fits inside visited rfl ?_
              apply concerned pos (bodyLenAt frame pos)
              rw [visited]
              exact Option.some_ne_none result
          | none =>
              refine keeps.onward fits inside ?_
              rw [visited]
              exact ih
  | case3 pos beyond =>
      rw [walkRun, if_neg beyond]
      exact .outside beyond

/-! ## Visits -/

/-- A visit that finds something visits a set it is about. -/
theorem concerned_of_found {c : Prop} [Decidable c]
    {visit : Parser (Option ρ)}
    (found :
      (if c then visit else pure none : Parser (Option ρ)).value ≠ none) :
    c := by
  by_contra other
  rw [if_neg other] at found
  exact found rfl

namespace EntriesKeep

variable {first later last : Nat}

/-- A run that only reads. -/
theorem of_reads {run : Parser α} (quiet : ReadsBelow finish run) :
    EntriesKeep finish first last run where
  below := quiet.below
  sets := quiet.reachedSets
  entries := by
    rw [quiet.reachedEntries]
    exact .nil

theorem reads {β : Type} {run : Parser α} {next : α → Parser β}
    (quiet : ReadsBelow finish run)
    (keeps : EntriesKeep finish first last (next run.value)) :
    EntriesKeep finish first last (run >>= next) where
  below := .bind quiet.below keeps.below
  sets := by
    rw [reachedSets_bind, quiet.reachedSets, keeps.sets]
    rfl
  entries := by
    rw [reachedEntries_bind, quiet.reachedEntries]
    exact keeps.entries

/-- A run that reaches an entry. -/
theorem reached {run : Parser α} (forward : first < later)
    (inside : later ≤ last) (keeps : EntriesKeep finish later last run) :
    EntriesKeep finish first last (do Traced.log (.entry first); run) where
  below := .bind (.log fun _ none => nomatch none) keeps.below
  sets := keeps.sets
  entries := keeps.entries.cons forward inside

theorem map {β : Type} {run : Parser α} (convert : α → β)
    (keeps : EntriesKeep finish first last run) :
    EntriesKeep finish first last
      (do let value ← run; pure (convert value)) where
  below := .bind keeps.below (.pure _)
  sets := by
    rw [reachedSets_bind, keeps.sets]
    rfl
  entries := by
    rw [reachedEntries_bind]
    change Forward first last (reachedEntries run ++ [])
    rw [List.append_nil]
    exact keeps.entries

end EntriesKeep

theorem findPeerEntryRun_keeps (mi : Octets 12) (listType : UInt8)
    {bodyEnd : Nat} (inside : bodyEnd ≤ finish) (pos : Nat) :
    EntriesKeep finish pos bodyEnd
      (findPeerEntryRun frame mi listType bodyEnd pos) := by
  fun_induction findPeerEntry frame mi listType bodyEnd pos with
  | case1 pos fits same =>
      rw [findPeerEntryRun, if_pos fits]
      refine .reached (Nat.lt_add_of_pos_right (by decide : 0 < 16)) fits ?_
      refine .of_reads (.bind (readsBelow_readOctets (by omega)) ?_)
      refine .ite (fun _ => ?_) fun other => absurd same other
      exact .bind (readsBelow_readBe32 (by omega)) (.pure _)
  | case2 pos fits other ih =>
      rw [findPeerEntryRun, if_pos fits]
      refine .reached (Nat.lt_add_of_pos_right (by decide : 0 < 16)) fits ?_
      refine .reads (readsBelow_readOctets (by omega)) ?_
      change EntriesKeep _ _ _
        (if compare (frame.slice pos 12).1 mi.1 = 0 then _ else _)
      rw [if_neg other]
      exact ih
  | case3 pos outside =>
      rw [findPeerEntryRun, if_neg outside]
      exact .of_reads (.pure _)

/-- The peer lists. -/
def IsPeerList (type : UInt8) : Prop :=
  type = paramLivePeerList ∨ type = paramPotentialPeerList

theorem visitPeerList_keeps (mi : Octets 12) (type : UInt8) {bodyLen : Nat}
    (inside : pos + 4 + bodyLen ≤ finish) :
    VisitKeeps finish pos bodyLen
      (visitPeerList frame mi type pos bodyLen) := by
  unfold visitPeerList
  split
  next => exact (findPeerEntryRun_keeps mi type inside (pos + 4)).map _
  next => exact .of_reads (.pure _)

theorem readsBelow_readDistributedSakRun (aes : BlockCipher)
    (crypto : MkaCrypto.Ctx) {bodyLen : Nat}
    (inside : pos + 4 + bodyLen ≤ finish) :
    ReadsBelow finish
      (readDistributedSakRun aes crypto frame pos bodyLen) := by
  unfold readDistributedSakRun
  refine .ite (fun _ => .pure _) fun long => ?_
  refine .bind (readsBelow_readBe32 (by omega)) ?_
  refine .dite (fun _ => ?_) fun _ => .pure _
  refine .bind (readsBelow_readOctet (by omega)) ?_
  refine .ite (fun _ => .pure _) fun _ => ?_
  exact .bind (readsBelow_readOctets (by omega)) (.pure _)

theorem visitDistributedSak_keeps (aes : BlockCipher)
    (crypto : MkaCrypto.Ctx) (type : UInt8) {bodyLen : Nat}
    (inside : pos + 4 + bodyLen ≤ finish) :
    VisitKeeps finish pos bodyLen
      (visitDistributedSak aes crypto frame type pos bodyLen) := by
  refine .of_reads (.ite (fun _ => ?_) fun _ => .pure _)
  exact .bind (readsBelow_readDistributedSakRun aes crypto inside) (.pure _)

theorem readsBelow_readSakUseRun (flags : UInt8) {bodyLen : Nat}
    (inside : pos + 4 + bodyLen ≤ finish) :
    ReadsBelow finish (readSakUseRun frame flags pos bodyLen) := by
  refine .ite (fun _ => .pure _) fun long => ?_
  refine .bind (readsBelow_readOctets (by omega)) ?_
  exact .bind (readsBelow_readBe32 (by omega)) (.pure _)

theorem visitSakUse_keeps (fields : UInt8 × UInt8) {bodyLen : Nat}
    (inside : pos + 4 + bodyLen ≤ finish) :
    VisitKeeps finish pos bodyLen (visitSakUse frame fields pos bodyLen) := by
  refine .of_reads (.ite (fun _ => ?_) fun _ => .pure _)
  exact .bind (readsBelow_readSakUseRun fields.2 inside) (.pure _)

end Walks

/-! ## Scans -/

/-- What passes a check. -/
theorem passed_of_ok {α : Type} {c : Prop} [Decidable c] {ret : Err}
    {rest : Except Err α} {value : α}
    (accepted : (if c then .error ret else rest) = .ok value) :
    ¬c ∧ rest = .ok value := by
  by_cases failed : c
  · rw [if_pos failed] at accepted
    cases accepted
  · rw [if_neg failed] at accepted
    exact ⟨failed, accepted⟩

/-- The lengths of an accepted frame. -/
theorem lengths_of_accepted {basic : Basic}
    (accepted : parseBasic frame = .ok basic) :
    basic.eapolLen = (rdBe16 frame 16).toNat ∧
      4 + 28 + icvLen ≤ basic.eapolLen ∧
      18 + basic.eapolLen ≤ frame.length := by
  obtain ⟨-, accepted⟩ := passed_of_ok accepted
  obtain ⟨-, accepted⟩ := passed_of_ok accepted
  obtain ⟨-, accepted⟩ := passed_of_ok accepted
  obtain ⟨complete, accepted⟩ := passed_of_ok accepted
  obtain ⟨sufficient, accepted⟩ := passed_of_ok accepted
  obtain ⟨-, accepted⟩ := passed_of_ok accepted
  obtain ⟨-, accepted⟩ := passed_of_ok accepted
  obtain ⟨-, accepted⟩ := passed_of_ok accepted
  obtain ⟨-, accepted⟩ := passed_of_ok accepted
  obtain rfl := Except.ok.inj accepted
  refine ⟨rfl, ?_, ?_⟩
  · omega
  · omega

/-- What a scan of an accepted frame keeps to. -/
structure ScanKeeps {ρ : Type} (frame : Bytes) (eapolLen : Nat)
    (about : UInt8 → Prop) (run : Parser ρ) (result : ρ) : Prop where
  computes : run.value = result
  below : ∀ access ∈ run.steps, access.Below (18 + eapolLen - icvLen)
  skips : frame.length < 90 → run.steps = []
  walks : 90 ≤ frame.length →
    WalksAlong frame about (reachedSets run)
      (boundaries frame (18 + eapolLen - icvLen) basicOffset)
  basicOnce : 90 ≤ frame.length →
    (reachedSets run).filter Prod.snd = [(basicOffset, true)]
  forward : Forward basicOffset (18 + eapolLen - icvLen)
    ((reachedSets run).map Prod.fst)
  entries : Forward basicOffset (18 + eapolLen - icvLen) (reachedEntries run)

section Scans

variable {ρ : Type} {basic : Basic} {short inconsistent : ρ}
  {scan : Nat → Parser ρ} {about : UInt8 → Prop} {result : ρ}

/-- The scan of a short frame reads nothing. -/
theorem scanRun_short (brief : frame.length < 90) :
    scanRun frame short inconsistent scan = pure short :=
  if_pos brief

/-- The scan of any other accepted frame walks up to the integrity check
value. -/
theorem scanRun_long (accepted : parseBasic frame = .ok basic)
    (long : ¬frame.length < 90) :
    scanRun frame short inconsistent scan =
      (do let _ ← readBe16 frame 16; scan (18 + basic.eapolLen - icvLen)) := by
  obtain ⟨eapolLen, sufficient, complete⟩ := lengths_of_accepted accepted
  rw [scanRun, if_neg long]
  apply Traced.bind_congr
  change (if (rdBe16 frame 16).toNat < icvLen then _
    else if 14 + 4 + (rdBe16 frame 16).toNat - icvLen > frame.length then _
    else scan (14 + 4 + (rdBe16 frame 16).toNat - icvLen)) = _
  rw [← eapolLen, if_neg (by omega), if_neg (by omega)]

theorem scanRun_keeps (accepted : parseBasic frame = .ok basic)
    (computes : (scanRun frame short inconsistent scan).value = result)
    (keeps : ∀ finish, WalkKeeps frame finish about basicOffset (scan finish)) :
    ScanKeeps frame basic.eapolLen about
      (scanRun frame short inconsistent scan) result := by
  by_cases brief : frame.length < 90
  · rw [scanRun_short brief] at computes ⊢
    exact
      { computes
        below := Traced.All.pure _
        skips := fun _ => rfl
        walks := fun long => absurd brief (Nat.not_lt.mpr long)
        basicOnce := fun long => absurd brief (Nat.not_lt.mpr long)
        forward := .nil
        entries := .nil }
  · obtain ⟨-, sufficient, -⟩ := lengths_of_accepted accepted
    have icv : icvLen = 16 := rfl
    have quiet : ReadsBelow (18 + basic.eapolLen - icvLen)
        (readBe16 frame 16) := readsBelow_readBe16 (by omega)
    rw [scanRun_long accepted brief] at computes ⊢
    have walk : WalkKeeps frame (18 + basic.eapolLen - icvLen) about
        basicOffset
        (do let _ ← readBe16 frame 16; scan (18 + basic.eapolLen - icvLen)) :=
      .afterReads (keeps (18 + basic.eapolLen - icvLen)) quiet
    exact
      { computes
        below := walk.below
        skips := fun short => absurd short brief
        walks := fun _ => walk.sets
        basicOnce := fun _ =>
          walk.sets.basicOnce (by change 18 + 4 ≤ _; omega)
        forward := (boundaries_forward frame _ basicOffset).sublist
          (walk.sets.along.sublist.map Prod.fst)
        entries := walk.entries }

end Scans

/-- The parsers read inside the frame and its EAPOL body, and the scans of an
accepted frame walk forward over the same parameter sets in front of the
integrity check value. -/
theorem parsers_keep_bounds (aes : BlockCipher) (crypto : MkaCrypto.Ctx)
    (mi : Octets 12) (frame : Bytes) :
    (isEapolMkaRun frame).value = isEapolMka frame ∧
      (∀ access ∈ (isEapolMkaRun frame).steps, access.Below frame.length) ∧
      (parseBasicRun frame).value = parseBasic frame ∧
      (∀ access ∈ (parseBasicRun frame).steps, access.Below frame.length) ∧
      ∀ basic, parseBasic frame = .ok basic →
        18 + basic.eapolLen ≤ frame.length ∧
          (∀ access ∈ (parseBasicRun frame).steps,
            access.Below (18 + basic.eapolLen)) ∧
          ScanKeeps frame basic.eapolLen IsPeerList
            (frameContainsPeerEntryRun frame mi)
            (frameContainsPeerEntry frame mi) ∧
          ScanKeeps frame basic.eapolLen (· = paramDistributedSak)
            (scanDistributedSakRun aes crypto frame)
            (scanDistributedSak aes crypto frame) ∧
          ScanKeeps frame basic.eapolLen (· = paramSakUse)
            (scanSakUseRun frame) (scanSakUse frame) := by
  refine ⟨value_isEapolMkaRun frame,
    (readsBelow_isEapolMkaRun frame).below, value_parseBasicRun frame, ?_, ?_⟩
  · exact ReadsBelow.below ((readsBelow_parseBasicRun frame).mono fun _ =>
      Access.ReadsBelow.weaken (Nat.min_le_left _ _))
  intro basic accepted
  obtain ⟨eapolLen, -, complete⟩ := lengths_of_accepted accepted
  refine ⟨complete, ?_, ?_, ?_, ?_⟩
  · rw [eapolLen]
    exact ReadsBelow.below ((readsBelow_parseBasicRun frame).mono fun _ =>
      Access.ReadsBelow.weaken (Nat.min_le_right _ _))
  · refine scanRun_keeps accepted
      (value_frameContainsPeerEntryRun frame mi) fun finish => ?_
    refine walkRun_keeps (fun pos fits => readsBelow_readOctet (by omega))
      (fun pos bodyLen inside => visitPeerList_keeps mi _ inside)
      (fun pos bodyLen => concerned_of_found) basicOffset
  · refine scanRun_keeps accepted
      (value_scanDistributedSakRun aes crypto frame) fun finish => ?_
    refine walkRun_keeps (fun pos fits => readsBelow_readOctet (by omega))
      (fun pos bodyLen inside => visitDistributedSak_keeps aes crypto _ inside)
      (fun pos bodyLen => concerned_of_found) basicOffset
  · refine scanRun_keeps accepted (value_scanSakUseRun frame) fun finish => ?_
    refine walkRun_keeps (fun pos fits => readsBelow_readTypeFlags fits)
      (fun pos bodyLen inside => visitSakUse_keeps _ inside)
      (fun pos bodyLen => concerned_of_found) basicOffset

end Mka

end Macsec
