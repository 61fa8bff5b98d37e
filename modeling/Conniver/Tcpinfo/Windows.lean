import Conniver.Tcpinfo.Info
import Conniver.Go.Fmt
import Mathlib.Tactic.Simps.Basic

/-!
The Windows backend, `tcpinfo_windows.go`. `GetTCPInfo` asks `WSAIoctl(SIO_TCP_INFO)` for a
`_TCP_INFO_v1` record and falls back to `_TCP_INFO_v0` when that fails; each record has its
decoder into `SysInfo`. The two records share their first members, and the two decoders are
near-copies with their own unit conversions. The ioctl itself is outside the repository: its
outcomes are parameters.
-/

namespace Tcpinfo.Windows

structure RawInfoV0 where
  state : UInt32 := 0
  mss : UInt32 := 0
  connectionTimeMs : UInt64 := 0
  timestampsEnabled : Bool := false
  rttUs : UInt32 := 0
  minRttUs : UInt32 := 0
  bytesInFlight : UInt32 := 0
  cwnd : UInt32 := 0
  sndWnd : UInt32 := 0
  rcvWnd : UInt32 := 0
  rcvBuf : UInt32 := 0
  bytesOut : UInt64 := 0
  bytesIn : UInt64 := 0
  bytesReordered : UInt32 := 0
  bytesRetrans : UInt32 := 0
  fastRetrans : UInt32 := 0
  dupAcksIn : UInt32 := 0
  timeoutEpisodes : UInt32 := 0
  synRetrans : UInt8 := 0
  deriving DecidableEq, Repr

structure RawInfoV1 where
  state : UInt32 := 0
  mss : UInt32 := 0
  connectionTimeMs : UInt64 := 0
  timestampsEnabled : Bool := false
  rttUs : UInt32 := 0
  minRttUs : UInt32 := 0
  bytesInFlight : UInt32 := 0
  cwnd : UInt32 := 0
  sndWnd : UInt32 := 0
  rcvWnd : UInt32 := 0
  rcvBuf : UInt32 := 0
  bytesOut : UInt64 := 0
  bytesIn : UInt64 := 0
  bytesReordered : UInt32 := 0
  bytesRetrans : UInt32 := 0
  fastRetrans : UInt32 := 0
  dupAcksIn : UInt32 := 0
  timeoutEpisodes : UInt32 := 0
  synRetrans : UInt8 := 0
  sndLimTransRwin : UInt32 := 0
  sndLimTimeRwin : UInt32 := 0
  sndLimBytesRwin : UInt64 := 0
  sndLimTransCwnd : UInt32 := 0
  sndLimTimeCwnd : UInt32 := 0
  sndLimBytesCwnd : UInt64 := 0
  sndLimTransSnd : UInt32 := 0
  sndLimTimeSnd : UInt32 := 0
  sndLimBytesSnd : UInt64 := 0
  deriving DecidableEq, Repr

structure SysInfo where
  state : UInt32 := 0
  stateName : String := ""
  mss : UInt32 := 0
  connectedTimeNS : Int64 := 0
  rtt : Int64 := 0
  rttMin : Int64 := 0
  bytesInFlight : UInt32 := 0
  congestionWindow : UInt32 := 0
  txWindow : UInt32 := 0
  rxWindow : UInt32 := 0
  rxBuffer : UInt32 := 0
  txBytes : UInt64 := 0
  rxBytes : UInt64 := 0
  rxOutOfOrderBytes : UInt32 := 0
  txRetransmitBytes : UInt64 := 0
  fastRetrans : UInt32 := 0
  dupAcksIn : UInt32 := 0
  timeoutEpisodes : UInt32 := 0
  synRetrans : UInt8 := 0
  sndLimTransRwin : UInt64 := 0
  sndLimTransTimeRwin : Int64 := 0
  sndLimBytesRwin : UInt64 := 0
  sndLimTransCwnd : UInt64 := 0
  sndLimTimeCwnd : Int64 := 0
  sndLimBytesCwnd : UInt64 := 0
  sndLimTransSnd : UInt64 := 0
  sndLimTimeSnd : Int64 := 0
  sndLimBytesSnd : UInt64 := 0
  deriving DecidableEq, Repr

-- the mstcpip.h `TCPSTATE` values
def tcpsClosed : UInt32 := 0
def tcpsListen : UInt32 := 1
def tcpsSynSent : UInt32 := 2
def tcpsSynReceived : UInt32 := 3
def tcpsEstablished : UInt32 := 4
def tcpsFinWait1 : UInt32 := 5
def tcpsFinWait2 : UInt32 := 6
def tcpsCloseWait : UInt32 := 7
def tcpsClosing : UInt32 := 8
def tcpsLastAck : UInt32 := 9
def tcpsTimeWait : UInt32 := 10

def tcpStateMap : List (UInt32 × String) :=
  [(tcpsEstablished, "ESTABLISHED"), (tcpsSynSent, "SYN_SENT"), (tcpsSynReceived, "SYN_RECV"),
    (tcpsFinWait1, "FIN_WAIT1"), (tcpsFinWait2, "FIN_WAIT2"), (tcpsTimeWait, "TIME_WAIT"),
    (tcpsClosed, "CLOSE"), (tcpsCloseWait, "CLOSE_WAIT"), (tcpsLastAck, "LAST_ACK"),
    (tcpsListen, "LISTEN"), (tcpsClosing, "CLOSING")]

-- the package's multiplier, which its comment says converts milliseconds
def timeFieldMultiplier : Int64 := Go.time.Microsecond

-- `time.Duration(x)` of a `uint32`, and of a `uint64`, which Go reinterprets as `int64`
def duration (x : UInt32) : Int64 :=
  Int64.ofNat x.toNat

def duration64 (x : UInt64) : Int64 :=
  Int64.ofNat x.toNat

@[simps]
def RawInfoV0.unpack (packed : RawInfoV0) : SysInfo :=
  { state := packed.state
    stateName := Go.index tcpStateMap packed.state
    mss := packed.mss
    connectedTimeNS := duration64 packed.connectionTimeMs * Go.time.Millisecond
    rtt := duration packed.rttUs * Go.time.Microsecond
    rttMin := duration packed.minRttUs * Go.time.Microsecond
    bytesInFlight := packed.bytesInFlight
    congestionWindow := packed.cwnd
    txWindow := packed.sndWnd
    rxWindow := packed.rcvWnd
    rxBuffer := packed.rcvBuf
    txBytes := packed.bytesOut
    rxBytes := packed.bytesIn
    rxOutOfOrderBytes := packed.bytesReordered
    txRetransmitBytes := packed.bytesRetrans.toUInt64
    fastRetrans := packed.fastRetrans
    dupAcksIn := packed.dupAcksIn
    timeoutEpisodes := packed.timeoutEpisodes
    synRetrans := packed.synRetrans }

@[simps]
def RawInfoV1.unpack (packed : RawInfoV1) : SysInfo :=
  { state := packed.state
    stateName := Go.index tcpStateMap packed.state
    mss := packed.mss
    connectedTimeNS := duration64 packed.connectionTimeMs * timeFieldMultiplier
    rtt := duration packed.rttUs * Go.time.Microsecond
    rttMin := duration packed.minRttUs * Go.time.Microsecond
    bytesInFlight := packed.bytesInFlight
    congestionWindow := packed.cwnd
    txWindow := packed.sndWnd
    rxWindow := packed.rcvWnd
    rxBuffer := packed.rcvBuf
    txBytes := packed.bytesOut
    rxBytes := packed.bytesIn
    rxOutOfOrderBytes := packed.bytesReordered
    txRetransmitBytes := packed.bytesRetrans.toUInt64
    fastRetrans := packed.fastRetrans
    dupAcksIn := packed.dupAcksIn
    timeoutEpisodes := packed.timeoutEpisodes
    synRetrans := packed.synRetrans
    sndLimTransRwin := packed.sndLimTransRwin.toUInt64
    sndLimTransTimeRwin := duration packed.sndLimTimeRwin * Go.time.Millisecond
    sndLimBytesRwin := packed.sndLimBytesRwin
    sndLimTransCwnd := packed.sndLimTransCwnd.toUInt64
    sndLimTimeCwnd := duration packed.sndLimTimeCwnd * Go.time.Millisecond
    sndLimBytesCwnd := packed.sndLimBytesCwnd
    sndLimTransSnd := packed.sndLimTransSnd.toUInt64
    sndLimTimeSnd := duration packed.sndLimTimeSnd * Go.time.Millisecond
    sndLimBytesSnd := packed.sndLimBytesSnd }

namespace SysInfo

def toMap (s : SysInfo) : Go.Map Value :=
  ⟨[("state", .string s.stateName),
    ("mss", .uint32 s.mss),
    ("connectedTimeNS", .duration s.connectedTimeNS),
    ("rtt", .duration s.rtt),
    ("rttMin", .duration s.rttMin),
    ("bytesInFlight", .uint32 s.bytesInFlight),
    ("congestionWindow", .uint32 s.congestionWindow),
    ("txWindow", .uint32 s.txWindow),
    ("rxWindow", .uint32 s.rxWindow),
    ("rxBuffer", .uint32 s.rxBuffer),
    ("txBytes", .uint64 s.txBytes),
    ("rxBytes", .uint64 s.rxBytes),
    ("rxOutOfOrderBytes", .uint32 s.rxOutOfOrderBytes),
    ("txRetransmitBytes", .uint64 s.txRetransmitBytes),
    ("fastRetransmissions", .uint32 s.fastRetrans),
    ("duplicateAcksIn", .uint32 s.dupAcksIn),
    ("timeoutEpisodes", .uint32 s.timeoutEpisodes),
    ("synRetransmissions", .uint8 s.synRetrans),
    ("sndLimTransRwin", .uint64 s.sndLimTransRwin),
    ("sndLimTimeRwin", .duration s.sndLimTransTimeRwin),
    ("sndLimBytesRwin", .uint64 s.sndLimBytesRwin),
    ("sndLimTransCwnd", .uint64 s.sndLimTransCwnd),
    ("sndLimTimeCwnd", .duration s.sndLimTimeCwnd),
    ("sndLimBytesCwnd", .uint64 s.sndLimBytesCwnd),
    ("sndLimTransSnd", .uint64 s.sndLimTransSnd),
    ("sndLimTimeSnd", .duration s.sndLimTimeSnd),
    ("sndLimBytesSnd", .uint64 s.sndLimBytesSnd)]⟩

-- `if c { warns = append(warns, label+strconv.FormatUint(n, 10)) }`
def warnIf (c : Bool) (label : String) (n : UInt64) : List String :=
  if c then [label ++ Go.strconv.formatUint n] else []

def warnings (s : SysInfo) : List String :=
  warnIf (s.txRetransmitBytes > 0) "retransmitBytes=" s.txRetransmitBytes ++
    warnIf (s.synRetrans > 0) "retransmitSyn=" s.synRetrans.toUInt64 ++
    warnIf (s.rxOutOfOrderBytes > 0) "outOfOrderBytes=" s.rxOutOfOrderBytes.toUInt64 ++
    warnIf (s.timeoutEpisodes > 0) "timeoutEpisodes=" s.timeoutEpisodes.toUInt64 ++
    warnIf (s.dupAcksIn > 0) "duplicateAcksIn=" s.dupAcksIn.toUInt64 ++
    warnIf (s.fastRetrans > 0) "fastRetransmissions=" s.fastRetrans.toUInt64

def toInfo (s : SysInfo) : Info SysInfo :=
  { state := s.stateName
    txMSS := s.mss.toUInt64
    rtt := s.rttMin
    rxWindow := s.rxWindow.toUInt64
    txWindowSegs := s.txWindow.toUInt64
    retransmits := s.synRetrans.toUInt64
    sys := s }

end SysInfo

-- what the two `WSAIoctl` calls return
structure Ioctls where
  v1 : Except Go.Error RawInfoV1
  v0 : Except Go.Error RawInfoV0

def getTCPInfo (io : Ioctls) : Option SysInfo × Option Go.Error :=
  match io.v1 with
  | .ok outbufv1 => (some outbufv1.unpack, none)
  | .error _ =>
    match io.v0 with
    | .error err => (none, some (.other ("could not perform the WSAIoctl: " ++ err.error)))
    | .ok outbufv0 => (some outbufv0.unpack, none)

def supported : Bool := true

-- the `_TCP_INFO_v0` record with the members a `_TCP_INFO_v1` record shares with it
def RawInfoV1.common (r : RawInfoV1) : RawInfoV0 :=
  { state := r.state
    mss := r.mss
    connectionTimeMs := r.connectionTimeMs
    timestampsEnabled := r.timestampsEnabled
    rttUs := r.rttUs
    minRttUs := r.minRttUs
    bytesInFlight := r.bytesInFlight
    cwnd := r.cwnd
    sndWnd := r.sndWnd
    rcvWnd := r.rcvWnd
    rcvBuf := r.rcvBuf
    bytesOut := r.bytesOut
    bytesIn := r.bytesIn
    bytesReordered := r.bytesReordered
    bytesRetrans := r.bytesRetrans
    fastRetrans := r.fastRetrans
    dupAcksIn := r.dupAcksIn
    timeoutEpisodes := r.timeoutEpisodes
    synRetrans := r.synRetrans }

namespace SysInfo

-- the fields the v0 decoder fills: those of a record with the v1 counters cleared
def v0Part (s : SysInfo) : SysInfo :=
  { s with
    sndLimTransRwin := 0
    sndLimTransTimeRwin := 0
    sndLimBytesRwin := 0
    sndLimTransCwnd := 0
    sndLimTimeCwnd := 0
    sndLimBytesCwnd := 0
    sndLimTransSnd := 0
    sndLimTimeSnd := 0
    sndLimBytesSnd := 0 }

end SysInfo

theorem v0Part_unpack_v0 (r : RawInfoV0) : r.unpack.v0Part = r.unpack :=
  rfl

theorem v0Part_unpack_v1 (r : RawInfoV1)
    : r.unpack.v0Part = { r.common.unpack with connectedTimeNS := r.unpack.connectedTimeNS } :=
  rfl

theorem connectedTimeNS_v0_eq_v1_mul (r : RawInfoV1)
    : r.common.unpack.connectedTimeNS = r.unpack.connectedTimeNS * 1000 := by
  simp only [RawInfoV0.unpack_connectedTimeNS, RawInfoV1.unpack_connectedTimeNS]
  have hunits : Go.time.Millisecond = timeFieldMultiplier * 1000 := by decide
  rw [hunits, Int64.mul_assoc]
  rfl

theorem unpack_connectedTimeNS_v1_ne_v0
    : let r : RawInfoV1 := { connectionTimeMs := 1 }
      r.unpack.connectedTimeNS = 1000 ∧ r.common.unpack.connectedTimeNS = 1000000 := by
  intro r
  simp only [r, RawInfoV0.unpack_connectedTimeNS, RawInfoV1.unpack_connectedTimeNS]
  decide

theorem getTCPInfo_fallback_agrees (r : RawInfoV1) (err : Go.Error)
    (v0 : Except Go.Error RawInfoV0)
    : (getTCPInfo ⟨.ok r, v0⟩).1.map (fun s => { s.v0Part with connectedTimeNS := 0 }) =
        (getTCPInfo ⟨.error err, .ok r.common⟩).1.map
          (fun s => { s.v0Part with connectedTimeNS := 0 }) := by
  simp only [getTCPInfo, Option.map_some]
  rw [v0Part_unpack_v1, v0Part_unpack_v0]

end Tcpinfo.Windows
