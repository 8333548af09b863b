import Macsec.Mka.Types
import Macsec.MkaCrypto

/-!
# Reading and writing MKPDUs

An MKPDU is an EAPOL frame whose body is a sequence of parameter sets followed
by the integrity check value.  The Basic Parameter Set always comes first, at
offset 18.  Each of the three scans of the source walks over the later sets and
stops at the first one it is about; here they are instances of one walk.
-/

namespace Macsec

namespace Mka

/-! ## Reading -/

/-- The offset of the Basic Parameter Set. -/
def basicOffset : Nat := 18

/-- Whether a frame is an EAPOL-MKA frame. -/
def isEapolMka (frame : Bytes) : Bool :=
  if frame.length < 18 then false
  else if rdBe16 frame 12 ≠ ethertypeEapol then false
  else frame.octetAt 15 == eapolTypeMka

/-- The 12-bit body length of the parameter set at a position. -/
def bodyLenAt (frame : Bytes) (pos : Nat) : Nat :=
  (frame.octetAt (pos + 2) &&& 0x0F).toNat * 256 +
    (frame.octetAt (pos + 3)).toNat

/-- The fields of the Basic Parameter Set. -/
def readBasic (frame : Bytes) : Basic :=
  let flags := frame.octetAt 20
  let eapolLen := (rdBe16 frame 16).toNat
  let bodyLen := bodyLenAt frame basicOffset
  { dstMac := frame.slice 0 6
    srcMac := frame.slice 6 6
    eapolVersion := frame.octetAt 14
    eapolType := frame.octetAt 15
    eapolLen := eapolLen
    mkaVersion := frame.octetAt 18
    keyServerPriority := frame.octetAt 19
    keyServer := flags &&& 0x80 != 0
    macsecDesired := flags &&& 0x40 != 0
    macsecCapability := flags >>> 4 &&& 0x03
    bodyLen := bodyLen
    sci := frame.slice 22 8
    actorMi := frame.slice 30 12
    actorMn := rdBe32 frame 42
    algorithmAgility := rdBe32 frame 46
    cakName := (frame.slice 50 (bodyLen - 28)).1
    icv := frame.slice (18 + eapolLen - icvLen) 16 }

/-- Parse and check the Basic Parameter Set. -/
def parseBasic (frame : Bytes) : Except Err Basic :=
  let basic := readBasic frame
  if frame.length < 14 + 4 + 4 + 28 + 16 then
    .error .buffer
  else if rdBe16 frame 12 ≠ ethertypeEapol then
    .error .param
  else if basic.eapolType ≠ eapolTypeMka then
    .error .unsupported
  else if frame.length < 14 + 4 + basic.eapolLen then
    .error .buffer
  else if basic.eapolLen < 4 + 28 + icvLen then
    .error .buffer
  else if basic.bodyLen < 28 then
    .error .buffer
  else
    let basicEndOffset := 18 + 4 + basic.bodyLen
    let icvOffset := 14 + 4 + basic.eapolLen - icvLen
    if basicEndOffset > icvOffset then
      .error .buffer
    else if icvOffset + icvLen > frame.length then
      .error .buffer
    else if basic.bodyLen - 28 > caNameMaxLen then
      .error .buffer
    else
      .ok basic

/-- Walk over the parameter sets from a position on.  The Basic Parameter Set
is skipped; every other set is visited with its type, its flag octet, the
position of its body and the length of its body, until a visit yields a
result.  A set that reaches beyond the end ends the walk in `overflow`. -/
def walk {ρ : Type} (frame : Bytes) (finish : Nat) (overflow done : ρ)
    (visit : UInt8 → UInt8 → Nat → Nat → Option ρ) (pos : Nat) : ρ :=
  if pos + 4 ≤ finish then
    let bodyLen := bodyLenAt frame pos
    let bodyEnd := pos + 4 + bodyLen
    if bodyEnd > finish then
      overflow
    else if pos = basicOffset then
      walk frame finish overflow done visit bodyEnd
    else
      match visit (frame.octetAt pos) (frame.octetAt (pos + 1)) (pos + 4)
          bodyLen with
      | some result => result
      | none => walk frame finish overflow done visit bodyEnd
  else
    done
termination_by finish - pos

/-- The end of the parameter sets, unless the EAPOL length is inconsistent. -/
def paramSetsEnd (frame : Bytes) : Option Nat :=
  let eapolLen := (rdBe16 frame 16).toNat
  let finish := 14 + 4 + eapolLen - icvLen
  if eapolLen < icvLen then none
  else if finish > frame.length then none
  else some finish

/-- Search a peer list for a member identifier. -/
def findPeerEntry (frame : Bytes) (mi : Octets 12) (listType : UInt8)
    (bodyEnd pos : Nat) : Option (UInt32 × UInt8) :=
  if pos + 16 ≤ bodyEnd then
    if compare (frame.slice pos 12).1 mi.1 = 0 then
      some (rdBe32 frame (pos + 12), listType)
    else
      findPeerEntry frame mi listType bodyEnd (pos + 16)
  else
    none
termination_by bodyEnd - pos

/-- The message number and the type of the peer list that names a
participant. -/
def frameContainsPeerEntry (frame : Bytes) (mi : Octets 12) :
    Option (UInt32 × UInt8) :=
  if frame.length < 90 then
    none
  else
    match paramSetsEnd frame with
    | none => none
    | some finish =>
        walk frame finish none none
          (fun type _ bodyPos bodyLen =>
            if type = paramLivePeerList ∨ type = paramPotentialPeerList then
              (findPeerEntry frame mi type (bodyPos + bodyLen) bodyPos).map some
            else
              none)
          basicOffset

/-- The association number in the two high bits of a flag octet. -/
def flagsAn (flags : UInt8) : Fin 4 :=
  Fin.ofNat 4 (flags >>> 6).toNat

/-- Read and unwrap a Distributed SAK parameter set. -/
def readDistributedSak (aes : BlockCipher) (crypto : MkaCrypto.Ctx)
    (frame : Bytes) (flags : UInt8) (bodyPos bodyLen : Nat) :
    Except Err DistributedSak :=
  let keyNumber := rdBe32 frame bodyPos
  let wrappedSakLen := bodyLen - 4
  if bodyLen < 4 + 24 then
    .error .buffer
  else if keyNumberNonzero : keyNumber ≠ 0 then
    if wrappedSakLen ≠ 24 ∧ wrappedSakLen ≠ 40 then
      .error .buffer
    else
      match
        MkaCrypto.unwrapSak aes crypto
          (frame.slice (bodyPos + 4) wrappedSakLen).1 32 with
      | .error ret => .error ret
      | .ok sak =>
          if sakLen : sakLenValid sak.length = true then
            .ok
              { an := flagsAn flags, keyNumber, sak, keyNumberNonzero, sakLen }
          else
            .error .buffer
  else
    .error .buffer

/-- Scan a frame for a Distributed SAK. -/
def scanDistributedSak (aes : BlockCipher) (crypto : MkaCrypto.Ctx)
    (frame : Bytes) : Except Err DistributedSak :=
  if frame.length < 90 then
    .error .notReady
  else
    match paramSetsEnd frame with
    | none => .error .buffer
    | some finish =>
        walk frame finish (.error .buffer) (.error .notReady)
          (fun type flags bodyPos bodyLen =>
            if type = paramDistributedSak then
              some (readDistributedSak aes crypto frame flags bodyPos bodyLen)
            else
              none)
          basicOffset

/-- Read a SAK Use parameter set. -/
def readSakUse (frame : Bytes) (flags : UInt8) (bodyPos bodyLen : Nat) :
    Except Err SakUse :=
  if bodyLen < 40 then
    .error .buffer
  else
    .ok
      { keyServerMi := frame.slice bodyPos 12
        keyNumber := rdBe32 frame (bodyPos + 12)
        an := flagsAn flags
        latestTx := flags &&& 0x20 != 0
        latestRx := flags &&& 0x10 != 0 }

/-- Scan a frame for SAK Use. -/
def scanSakUse (frame : Bytes) : Except Err SakUse :=
  if frame.length < 90 then
    .error .notReady
  else
    match paramSetsEnd frame with
    | none => .error .buffer
    | some finish =>
        walk frame finish (.error .buffer) (.error .notReady)
          (fun type flags bodyPos bodyLen =>
            if type = paramSakUse then
              some (readSakUse frame flags bodyPos bodyLen)
            else
              none)
          basicOffset

/-- What an authenticated frame says to the participant with the given member
identifier. -/
def decode (aes : BlockCipher) (crypto : MkaCrypto.Ctx) (localMi : Octets 12)
    (frame : Bytes) (basic : Basic) : Mkpdu where
  basic := basic
  distributedSak := scanDistributedSak aes crypto frame
  localSeen := (frameContainsPeerEntry frame localMi).isSome
  sakUse := scanSakUse frame

/-! ## Writing -/

/-- A parameter set: type, flags, the 12-bit body length below further flags,
and the body. -/
def paramSet (type flags lenFlags : UInt8) (body : Bytes) : Bytes :=
  [type, flags,
    lenFlags ||| (UInt8.ofNat (body.length / 256) &&& 0x0F),
    UInt8.ofNat body.length] ++ body

namespace Participant

/-- The flags beside the body length of the Basic Parameter Set. -/
def basicFlags (ctx : Participant) : UInt8 :=
  (ctx.macsecCapability &&& 0x03) <<< 4 |||
    (if ctx.localKeyServer then 0x80 else 0) |||
    (if ctx.macsecDesired then 0x40 else 0)

/-- Write the Basic Parameter Set. -/
def writeBasic (ctx : Participant) (ckn : Bytes) : Bytes :=
  paramSet versionId ctx.keyServerPriority ctx.basicFlags
    (ctx.localSci.1 ++ ctx.localMi.1 ++ (wrBe32 ctx.localMn).1 ++
      (wrBe32 algorithmAgility).1 ++ ckn)

/-- Write the peer list, which has the peer as its only entry. -/
def writePeerList (ctx : Participant) : Bytes :=
  paramSet
    (if ctx.peer.live then paramLivePeerList else paramPotentialPeerList) 0 0
    (ctx.peer.mi.1 ++ (wrBe32 ctx.peer.mn).1)

/-- The AN of a SAK and its installed directions, above the low bits. -/
def sakFlags (sak : Sak) (anShift : UInt8) (txFlag rxFlag : UInt8) : UInt8 :=
  UInt8.ofNat sak.an.1 <<< anShift |||
    (if sak.txInstalled then txFlag else 0) |||
    (if sak.rxInstalled then rxFlag else 0)

/-- The flags of SAK Use, for the latest SAK above those for the old one. -/
def sakUseFlags (ctx : Participant) : UInt8 :=
  let latest :=
    if ctx.latestSak.lifecycleState ≠ .none then
      sakFlags ctx.latestSak 6 0x20 0x10
    else
      0
  let old :=
    if ctx.oldSak.lifecycleState = .retiring then
      sakFlags ctx.oldSak 2 0x02 0x01
    else
      0
  latest ||| old

/-- The lowest acceptable packet number SAK Use reports. -/
def reportedPn (sak : Sak) : UInt32 :=
  if sak.lowestPn ≠ 0 then sak.lowestPn else 1

/-- Write SAK Use. -/
def writeSakUse (ctx : Participant) : Bytes :=
  let latest :=
    if ctx.latestSak.lifecycleState ≠ .none then
      (if ctx.localKeyServer then ctx.localMi else ctx.peer.mi).1 ++
        (wrBe32 ctx.latestSak.keyNumber).1 ++
        (wrBe32 (reportedPn ctx.latestSak)).1
    else
      List.replicate 20 0
  let old :=
    if ctx.oldSak.lifecycleState = .retiring then
      (if ctx.oldSak.origin = .localKeyServer then ctx.localMi
        else ctx.peer.mi).1 ++
        (wrBe32 ctx.oldSak.keyNumber).1 ++
        (wrBe32 (reportedPn ctx.oldSak)).1
    else
      List.replicate 16 0 ++ (wrBe32 1).1
  paramSet paramSakUse ctx.sakUseFlags 0 (latest ++ old)

/-- Write the Distributed SAK with the wrapped latest SAK. -/
def writeDistributedSak (aes : BlockCipher) (crypto : MkaCrypto.Ctx)
    (ctx : Participant) : Except Err Bytes :=
  if !sakDistributable ctx.latestSak then
    .error .state
  else if ctx.latestSak.origin ≠ .localKeyServer then
    .error .state
  else
    match MkaCrypto.wrapSak aes crypto ctx.latestSak.sak 40 with
    | .error ret => .error ret
    | .ok wrapped =>
        .ok
          (paramSet paramDistributedSak
            (UInt8.ofNat ctx.latestSak.an.1 <<< 6) 0
            ((wrBe32 ctx.latestSak.keyNumber).1 ++ wrapped))

end Participant

end Mka

end Macsec
