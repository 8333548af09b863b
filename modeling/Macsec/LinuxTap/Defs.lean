import Macsec.Api.Defs

/-!
# The Linux TAP program

The program of `examples/linux_tap` has the frames of a TAP interface protected
on a physical interface.  It calls the public interface from one event loop.
Its inputs are the answers of the operating system, one record for each round
of the loop, and its outputs are the frames that it hands over to one of the two
interfaces.
-/

namespace Macsec

namespace LinuxTap

/-! ## System calls -/

/-- A system call fails, would block, or answers with a value. -/
inductive Answer (α : Type)
  | failed
  | again
  | done (value : α)
  deriving DecidableEq

/-- What `recvfrom` finds on the packet socket.  Frames that this host sent may
be among those that arrive. -/
inductive Arrival
  | failed
  | again
  | frame (octets : Bytes) (outgoing : Bool)
  deriving DecidableEq

/-- The size of the frame buffers. -/
def frameMax : Nat := 2048

/-- The length of an Ethernet header. -/
def ethHlen : Nat := 14

/-- The EtherType of a frame, or zero if it has none. -/
def rawGetEthertype (frame : Bytes) : UInt16 :=
  if frame.length < ethHlen then 0 else rdBe16 frame 12

/-- The first protected or EAPOL frame from elsewhere, truncated to the size of
the buffer. -/
def rawReceive (frameCapacity : Nat) : List Arrival → Answer Bytes
  | [] => .again
  | .again :: _ => .again
  | .failed :: _ => .failed
  | .frame octets outgoing :: rest =>
      let frame := octets.take frameCapacity
      if outgoing then
        rawReceive frameCapacity rest
      else if rawGetEthertype frame ≠ FrameCrypto.ethertype ∧
          rawGetEthertype frame ≠ Mka.ethertypeEapol then
        rawReceive frameCapacity rest
      else
        .done frame

/-- Hand over a frame of a least length.  The call counts the octets it took,
and anything but the whole frame is an error. -/
def transfer (least : Nat) (frame : Bytes) (answer : Answer Nat) :
    Answer Nat :=
  if frame.length < least then
    .failed
  else
    match answer with
    | .failed => .failed
    | .again => .again
    | .done count => if count ≠ frame.length then .failed else .done count

/-- Hand over a frame to the physical interface. -/
def rawSend (frame : Bytes) (answer : Answer Nat) : Answer Nat :=
  transfer ethHlen frame answer

/-- Hand over a frame to the TAP. -/
def tapWrite (frame : Bytes) (answer : Answer Nat) : Answer Nat :=
  transfer 1 frame answer

/-- Read a frame from the TAP into a buffer. -/
def tapRead (frameCapacity : Nat) (answer : Answer Bytes) : Answer Bytes :=
  match answer with
  | .failed => .failed
  | .again => .again
  | .done octets => .done (octets.take frameCapacity)

/-! ## Configuration -/

/-- `linux_tap_mode_t`. -/
inductive Mode
  | mkaPsk
  | staticSak
  deriving DecidableEq

/-- `linux_tap_config_t`.  An array with its length is a list. -/
structure Config where
  mode : Mode
  cak : Bytes
  ckn : Bytes
  mkaPriority : UInt8
  staticSak : Bytes
  cakSet : Bool
  cknSet : Bool
  prioritySet : Bool
  deriving DecidableEq

/-- The configuration of the context that the program works with. -/
def macsecConfig (localMac : Octets 6) (config : Config) : Macsec.Config :=
  let keyed := config.mode = .mkaPsk
  { mode := if keyed then .mkaPsk else .staticSak
    localMac := localMac
    portId := 1
    cak := if keyed then config.cak else []
    ckn := if keyed then config.ckn else []
    staticSak := if keyed then [] else config.staticSak
    staticAn := 0
    replayProtect := false
    replayWindow := 0
    keyServerPriority := if keyed then config.mkaPriority else 0
    mkaTxIntervalMs := if keyed then 2000 else 0 }

/-- Initialise the context of the program. -/
def initMacsec (aes : BlockCipher) (localMac : Octets 6) (config : Config)
    (mi : Octets 12) : Err × Ctx :=
  init aes (macsecConfig localMac config) mi

/-! ## Steps of the loop -/

/-- `linux_tap_stats_t`. -/
structure Stats where
  tapRx : UInt64
  rawTx : UInt64
  rawTxDropped : UInt64
  mkaRx : UInt64
  macsecRx : UInt64
  tapTx : UInt64
  tapTxDropped : UInt64
  encryptErrors : UInt64
  decryptErrors : UInt64
  deriving DecidableEq

/-- No frame was counted yet. -/
def Stats.zero : Stats := ⟨0, 0, 0, 0, 0, 0, 0, 0, 0⟩

/-- What the loop works on. -/
structure Daemon where
  macsec : Ctx
  stats : Stats

/-- Update the counters. -/
def Daemon.withStats (daemon : Daemon) (update : Stats → Stats) : Daemon :=
  { daemon with stats := update daemon.stats }

/-- A control frame or a protected frame is handed over to the physical
interface, or a frame to the TAP. -/
inductive Action
  | control (frame : Bytes)
  | secure (frame : Bytes)
  | write (frame : Bytes)
  deriving DecidableEq

/-- A step of the loop returns zero or a negative value. -/
structure Outcome where
  ok : Bool
  daemon : Daemon
  actions : List Action

/-- A step that ends without handing over a frame. -/
def Daemon.returns (daemon : Daemon) (ok : Bool) : Outcome :=
  ⟨ok, daemon, []⟩

/-- The next step is taken unless the last one failed. -/
def Outcome.andThen (outcome : Outcome) (next : Daemon → Outcome) : Outcome :=
  if outcome.ok then
    let rest := next outcome.daemon
    { rest with actions := outcome.actions ++ rest.actions }
  else
    outcome

/-- Hand over a protected frame. -/
def sendSecure (daemon : Daemon) (frame : Bytes) (sent : Answer Nat) :
    Outcome :=
  match rawSend frame sent with
  | .failed => ⟨false, daemon, [.secure frame]⟩
  | .again =>
      ⟨true,
        daemon.withStats fun stats =>
          { stats with rawTxDropped := stats.rawTxDropped + 1 },
        [.secure frame]⟩
  | .done _ =>
      ⟨true,
        daemon.withStats fun stats => { stats with rawTx := stats.rawTx + 1 },
        [.secure frame]⟩

/-- Protect a frame of the TAP and send it. -/
def processPlain (aes : BlockCipher) (daemon : Daemon) (tap : Answer Bytes)
    (sent : Answer Nat) : Outcome :=
  match tapRead frameMax tap with
  | .failed => daemon.returns false
  | .again => daemon.returns true
  | .done plain =>
      if plain.length = 0 then
        daemon.returns true
      else
        let protect := output aes daemon.macsec plain frameMax
        let counted := { daemon.stats with tapRx := daemon.stats.tapRx + 1 }
        let daemon := { macsec := protect.1, stats := counted }
        if protect.2.ret ≠ .ok then
          (daemon.withStats fun stats =>
            { stats with encryptErrors := stats.encryptErrors + 1 }).returns
              true
        else
          sendSecure daemon protect.2.frame sent

/-- Hand over a frame that was opened. -/
def writePlain (daemon : Daemon) (frame : Bytes) (written : Answer Nat) :
    Outcome :=
  match tapWrite frame written with
  | .failed => ⟨false, daemon, [.write frame]⟩
  | .again =>
      ⟨true,
        daemon.withStats fun stats =>
          { stats with tapTxDropped := stats.tapTxDropped + 1 },
        [.write frame]⟩
  | .done _ =>
      ⟨true,
        daemon.withStats fun stats => { stats with tapTx := stats.tapTx + 1 },
        [.write frame]⟩

/-- Count a received frame. -/
def Stats.received (stats : Stats) (etherType : UInt16) : Stats :=
  if etherType = 0x888E then
    { stats with mkaRx := stats.mkaRx + 1 }
  else if etherType = 0x88E5 then
    { stats with macsecRx := stats.macsecRx + 1 }
  else
    stats

/-- Open a frame of the physical interface and write it to the TAP.  The buffer
for the plaintext is not initialised. -/
def processPhysical (aes : BlockCipher) (daemon : Daemon)
    (arrivals : List Arrival) (buffer : Octets frameMax) (rnd : Octets 16)
    (written : Answer Nat) : Outcome :=
  match rawReceive frameMax arrivals with
  | .failed => daemon.returns false
  | .again => daemon.returns true
  | .done frame =>
      if frame.length < 14 then
        daemon.returns true
      else
        let opened := input aes daemon.macsec frame buffer.1 rnd
        let counted := daemon.stats.received (rdBe16 frame 12)
        let daemon := { macsec := opened.1, stats := counted }
        if opened.2.ret ≠ .ok then
          (daemon.withStats fun stats =>
            { stats with decryptErrors := stats.decryptErrors + 1 }).returns
              true
        else if !opened.2.passToStack then
          daemon.returns true
        else
          writePlain daemon opened.2.frame written

/-- Hand over a control frame and report what became of it. -/
def sendControl (daemon : Daemon) (frame : Bytes) (nowMs : UInt32)
    (sent : Answer Nat) : Outcome :=
  match rawSend frame sent with
  | .done _ =>
      let report := daemon.macsec.lift (·.notifyControlTxSuccess nowMs)
      ⟨report.1 = .ok, { daemon with macsec := report.2 }, [.control frame]⟩
  | .again =>
      let report := daemon.macsec.lift Control.notifyControlTxFailure
      ⟨report.1 = .ok, { daemon with macsec := report.2 }, [.control frame]⟩
  | .failed =>
      let report := daemon.macsec.lift Control.notifyControlTxFailure
      ⟨false, { daemon with macsec := report.2 }, [.control frame]⟩

/-- Let the key agreement make progress and send what it has to say. -/
def macsecControlService (aes : BlockCipher) (daemon : Daemon)
    (nowMs : UInt32) (rnd : Octets 16) (sent : Answer Nat) : Outcome :=
  let ticked := daemon.macsec.lift (·.tick nowMs)
  let daemon := { daemon with macsec := ticked.2 }
  if ticked.1 ≠ .ok then
    daemon.returns false
  else
    let built := buildControlFrame aes daemon.macsec Mka.maxFrameLen rnd
    let daemon := { daemon with macsec := built.1 }
    if built.2.ret = .notReady then
      daemon.returns true
    else if built.2.ret ≠ .ok then
      daemon.returns false
    else
      sendControl daemon built.2.frame nowMs sent

/-! ## The loop -/

/-- What `poll` reports on a descriptor: an error or hangup, or input. -/
structure Revents where
  error : Bool
  input : Bool
  deriving DecidableEq

/-- What `poll` answers.  A signal handler may have asked the program to
stop when a signal interrupted it. -/
inductive Polled
  | interrupted (running : Bool)
  | failed
  | timeout
  | ready (tap physical : Revents)
  deriving DecidableEq

/-- The answers of the operating system in a round of the loop. -/
structure Round where
  running : Bool
  polled : Polled
  nowMs : UInt32
  controlRnd : Octets 16
  controlSent : Answer Nat
  tap : Answer Bytes
  plainSent : Answer Nat
  arrivals : List Arrival
  buffer : Octets frameMax
  inputRnd : Octets 16
  written : Answer Nat
  deriving DecidableEq

/-- The steps of a round between two calls of `poll`. -/
def Round.steps (round : Round) (aes : BlockCipher) (mode : Mode)
    (daemon : Daemon) : Outcome :=
  let serviced :=
    if mode = .mkaPsk then
      macsecControlService aes daemon round.nowMs round.controlRnd
        round.controlSent
    else
      daemon.returns true
  match round.polled with
  | .ready tap physical =>
      serviced.andThen fun daemon =>
        (daemon.returns (!tap.error && !physical.error)).andThen fun daemon =>
          (if tap.input then
            processPlain aes daemon round.tap round.plainSent
          else
            daemon.returns true).andThen fun daemon =>
              if physical.input then
                processPhysical aes daemon round.arrivals round.buffer
                  round.inputRnd round.written
              else
                daemon.returns true
  | _ => serviced

/-- The codes that the program leaves the loop with. -/
inductive ExitCode
  | success
  | failure
  deriving DecidableEq

/-- The program in its loop, or with the code it leaves it with. -/
structure Process where
  daemon : Daemon
  exit : Option ExitCode

/-- The program leaves the loop. -/
def Process.leaves (daemon : Daemon) (code : ExitCode) : Process :=
  ⟨daemon, some code⟩

/-- A round of the loop. -/
def turn (aes : BlockCipher) (mode : Mode) (daemon : Daemon) (round : Round) :
    Process × List Action :=
  if !round.running then
    (.leaves daemon .success, [])
  else
    match round.polled with
    | .interrupted running =>
        if running then (⟨daemon, none⟩, []) else (.leaves daemon .success, [])
    | .failed => (.leaves daemon .failure, [])
    | _ =>
        let outcome := round.steps aes mode daemon
        (⟨outcome.daemon, if outcome.ok then none else some .failure⟩,
          outcome.actions)

/-- The program goes from round to round until it leaves the loop. -/
def machine (aes : BlockCipher) (mode : Mode) :
    Transition.Machine Process Round (List Action) where
  step process round :=
    match process.exit with
    | none => turn aes mode process.daemon round
    | some _ => (process, [])

/-- The program before its first round. -/
def Process.start (macsec : Ctx) : Process :=
  ⟨⟨macsec, Stats.zero⟩, none⟩

end LinuxTap

end Macsec
