import Macsec.Common

/-!
# Data of the MKA participant

The states, flags and records of `mka.h`.  The fields of
`macsec_mka_ctx_t` that carry the protocol state form `Participant`; the key
material and the records of the last received frame are added by `Ctx` in
`Macsec.Mka.Protocol`.
-/

namespace Macsec

namespace Mka

/-! ## Constants -/

/-- The EtherType of EAPOL frames. -/
def ethertypeEapol : UInt16 := 0x888E

/-- The packet type of EAPOL-MKA frames. -/
def eapolTypeMka : UInt8 := 5

/-- The protocol version of EAPOL frames. -/
def eapolVersion2010 : UInt8 := 3

/-- The version identifier of MKA. -/
def versionId : UInt8 := 1

/-- The algorithm agility parameter of MKA. -/
def algorithmAgility : UInt32 := 0x0080C201

/-- The interval between control frames unless another one is configured. -/
def defaultTxIntervalMs : UInt32 := 2000

/-- The capability to protect frames with integrity and confidentiality. -/
def defaultCapability : UInt8 := 2

/-- The number of intervals after which a silent peer expires. -/
def peerTimeoutMultiplier : UInt32 := 3

/-- The length of the integrity check value of an MKPDU. -/
def icvLen : Nat := 16

/-- The length of the longest CKN. -/
def caNameMaxLen : Nat := 32

/-- The size of the largest control frame. -/
def maxFrameLen : Nat := 512

/-- The group address that control frames are sent to. -/
def dstMac : Octets 6 :=
  ⟨[0x01, 0x80, 0xC2, 0x00, 0x00, 0x03], rfl⟩

/-- The type of the Live Peer List. -/
def paramLivePeerList : UInt8 := 1

/-- The type of the Potential Peer List. -/
def paramPotentialPeerList : UInt8 := 2

/-- The type of SAK Use. -/
def paramSakUse : UInt8 := 3

/-- The type of the Distributed SAK. -/
def paramDistributedSak : UInt8 := 4

/-! ## States -/

/-- The relationship of a participant with its peer. -/
inductive State
  | init
  | waitPeer
  | peerDiscovered
  | peerLive
  | operational
  | error
  deriving DecidableEq, Repr

/-- Where a SAK came from. -/
inductive SakOrigin
  | none
  | localKeyServer
  | remoteKeyServer
  deriving DecidableEq, Repr

/-- The lifecycle of a SAK. -/
inductive SakState
  | none
  | candidate
  | distributionPending
  | distributed
  | installPending
  | active
  | confirmed
  | retiring
  deriving DecidableEq, Repr

/-! ## Event flags -/

namespace EventFlag

/-- A new peer was discovered. -/
def peerDiscovered : UInt32 := 0x00000001

/-- The peer came to life. -/
def peerLive : UInt32 := 0x00000002

/-- The peer expired. -/
def peerLost : UInt32 := 0x00000004

/-- The outcome of the election changed. -/
def keyServerChanged : UInt32 := 0x00000008

/-- A SAK is there to be installed. -/
def sakAvailable : UInt32 := 0x00000010

/-- The SAK was sent to the peer. -/
def sakDistributed : UInt32 := 0x00000020

/-- The SAK is installed in both directions. -/
def sakActive : UInt32 := 0x00000040

/-- The peer uses the SAK in both directions. -/
def sakConfirmed : UInt32 := 0x00000080

/-- The old SAK was removed. -/
def sakRetired : UInt32 := 0x00000100

/-- The old SAK is to be removed. -/
def sakRetireRequired : UInt32 := 0x00000200

/-- The first control frame is due. -/
def txInitial : UInt32 := 0x00001000

/-- A control frame is due after an interval. -/
def txPeriodic : UInt32 := 0x00002000

/-- A control frame is due because the peer changed. -/
def txPeerChange : UInt32 := 0x00004000

/-- A control frame is due because the Key Server changed. -/
def txKeyServerChange : UInt32 := 0x00008000

/-- A control frame with a SAK is due. -/
def txDistributeSak : UInt32 := 0x00010000

/-- A control frame that reports the use of a SAK is due. -/
def txSakUse : UInt32 := 0x00020000

/-- Another SAK is required. -/
def rekeyRequired : UInt32 := 0x00100000

/-- A transition was refused. -/
def error : UInt32 := 0x80000000

end EventFlag

/-! ## Transmit reasons -/

namespace TxReason

/-- The participant was initialised. -/
def initial : UInt32 := 0x00000001

/-- The interval is over. -/
def periodic : UInt32 := 0x00000002

/-- The peer changed. -/
def peerChange : UInt32 := 0x00000004

/-- The Key Server changed. -/
def keyServerChange : UInt32 := 0x00000008

/-- A SAK is to be distributed. -/
def distributeSak : UInt32 := 0x00000010

/-- The use of a SAK is to be reported. -/
def sakUse : UInt32 := 0x00000020

/-- The SAK is to be replaced. -/
def rekey : UInt32 := 0x00000040

/-- All known reasons. -/
def all : UInt32 :=
  initial ||| periodic ||| peerChange ||| keyServerChange ||| distributeSak |||
    sakUse ||| rekey

end TxReason

/-! ## Installation directions -/

/-- The receive direction. -/
def installRx : UInt8 := 0x01

/-- The transmit direction. -/
def installTx : UInt8 := 0x02

/-! ## Records -/

/-- The parsed Basic Parameter Set of an MKPDU. -/
structure Basic where
  dstMac : Octets 6
  srcMac : Octets 6
  eapolVersion : UInt8
  eapolType : UInt8
  eapolLen : Nat
  mkaVersion : UInt8
  keyServerPriority : UInt8
  keyServer : Bool
  macsecDesired : Bool
  macsecCapability : UInt8
  bodyLen : Nat
  sci : Octets 8
  actorMi : Octets 12
  actorMn : UInt32
  algorithmAgility : UInt32
  cakName : Bytes
  icv : Octets 16
  deriving DecidableEq

/-- The record of the peer. -/
structure Peer where
  valid : Bool
  mac : Octets 6
  sci : Octets 8
  mi : Octets 12
  mn : UInt32
  keyServerPriority : UInt8
  keyServer : Bool
  macsecDesired : Bool
  macsecCapability : UInt8
  lastSeenMs : UInt32
  seenInPeerList : Bool
  live : Bool
  deriving DecidableEq

/-- The cleared peer record. -/
def Peer.cleared : Peer where
  valid := false
  mac := Octets.zero 6
  sci := Octets.zero 8
  mi := Octets.zero 12
  mn := 0
  keyServerPriority := 0
  keyServer := false
  macsecDesired := false
  macsecCapability := 0
  lastSeenMs := 0
  seenInPeerList := false
  live := false

/-- A SAK slot.  The key carries its length. -/
structure Sak where
  sak : Bytes
  an : Fin 4
  keyNumber : UInt32
  origin : SakOrigin
  lifecycleState : SakState
  rxInstalled : Bool
  txInstalled : Bool
  peerRxConfirmed : Bool
  peerTxConfirmed : Bool
  lowestPn : UInt32
  deriving DecidableEq

/-- The cleared slot, `macsec_mka_sak_clear`. -/
def Sak.cleared : Sak where
  sak := []
  an := 0
  keyNumber := 0
  origin := .none
  lifecycleState := .none
  rxInstalled := false
  txInstalled := false
  peerRxConfirmed := false
  peerTxConfirmed := false
  lowestPn := 0

/-- SAKs have 128 or 256 bits. -/
def sakLenValid (sakLen : Nat) : Bool :=
  sakLen == 16 || sakLen == 32

/-- Whether a SAK is in a state in which it may be distributed. -/
def sakDistributable (sak : Sak) : Bool :=
  sak.lifecycleState == .distributionPending ||
    sak.lifecycleState == .distributed ||
    sak.lifecycleState == .installPending ||
    sak.lifecycleState == .active || sak.lifecycleState == .confirmed

/-- What a built MKPDU contains and why it was built. -/
structure TxMeta where
  messageNumber : UInt32
  reasons : UInt32
  containsPeerList : Bool
  containsDistributedSak : Bool
  containsSakUse : Bool
  distributedKeyNumber : UInt32
  distributedAn : Fin 4
  deriving DecidableEq

/-- The cleared metadata. -/
def TxMeta.cleared : TxMeta where
  messageNumber := 0
  reasons := 0
  containsPeerList := false
  containsDistributedSak := false
  containsSakUse := false
  distributedKeyNumber := 0
  distributedAn := 0

/-- The protocol state of a participant. -/
structure Participant where
  state : State
  peer : Peer
  latestSak : Sak
  oldSak : Sak
  localMac : Octets 6
  localSci : Octets 8
  localMi : Octets 12
  localMn : UInt32
  keyServerPriority : UInt8
  localKeyServer : Bool
  macsecDesired : Bool
  macsecCapability : UInt8
  keyServerNextKeyNumber : UInt32
  keyServerNextAn : Fin 4
  txIntervalMs : UInt32
  lastTxMs : UInt32
  lastTickMs : UInt32
  pendingEvents : UInt32
  txReasons : UInt32
  deriving DecidableEq

/-- The all-zero participant. -/
def Participant.cleared : Participant where
  state := .init
  peer := Peer.cleared
  latestSak := Sak.cleared
  oldSak := Sak.cleared
  localMac := Octets.zero 6
  localSci := Octets.zero 8
  localMi := Octets.zero 12
  localMn := 0
  keyServerPriority := 0
  localKeyServer := false
  macsecDesired := false
  macsecCapability := 0
  keyServerNextKeyNumber := 0
  keyServerNextAn := 0
  txIntervalMs := 0
  lastTxMs := 0
  lastTickMs := 0
  pendingEvents := 0
  txReasons := 0

/-! ## Contents of received MKPDUs -/

/-- An unwrapped Distributed SAK parameter set.  Only sets with a nonzero key
number and a key of a supported size are accepted. -/
structure DistributedSak where
  an : Fin 4
  keyNumber : UInt32
  sak : Bytes
  keyNumberNonzero : keyNumber ≠ 0
  sakLen : sakLenValid sak.length = true
  deriving DecidableEq

/-- The slot a Distributed SAK is adopted into. -/
def DistributedSak.toSak (found : DistributedSak) : Sak :=
  { Sak.cleared with
    sak := found.sak
    an := found.an
    keyNumber := found.keyNumber
    origin := .remoteKeyServer
    lowestPn := 1 }

/-- A SAK Use parameter set. -/
structure SakUse where
  keyServerMi : Octets 12
  keyNumber : UInt32
  an : Fin 4
  latestTx : Bool
  latestRx : Bool
  deriving DecidableEq

/-- What an authenticated MKPDU says to its receiver: its Basic Parameter Set,
the results of the scans for a Distributed SAK and for SAK Use, and whether a
peer list names the receiver.  A scan that finds nothing ends in
`notReady`. -/
structure Mkpdu where
  basic : Basic
  distributedSak : Except Err DistributedSak
  localSeen : Bool
  sakUse : Except Err SakUse

end Mka

end Macsec
