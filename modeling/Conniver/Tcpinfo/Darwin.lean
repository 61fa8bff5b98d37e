import Conniver.Tcpinfo.Info
import Conniver.Go.Fmt
import Conniver.Lib.Scan
import Mathlib.Tactic.Simps.Basic
import Mathlib.Data.List.Basic

/-!
The Darwin backend, `tcpinfo_darwin.go`: `RawInfo`, xnu's `tcp_connection_info` (its padding
byte left out), decoded into `SysInfo`. The option loop reports the window-scale shifts the
record carries; the flags become a comma-separated list of names. The `getsockopt` call is
outside the repository: its outcome is a parameter.
-/

namespace Tcpinfo.Darwin

structure RawInfo where
  state : UInt8 := 0
  sendWscale : UInt8 := 0
  recvWscale : UInt8 := 0
  options : UInt32 := 0
  flags : UInt32 := 0
  rto : UInt32 := 0
  maxSeg : UInt32 := 0
  sendSSThresh : UInt32 := 0
  sendCwnd : UInt32 := 0
  sendWnd : UInt32 := 0
  sendSBBytes : UInt32 := 0
  recvWnd : UInt32 := 0
  rttCur : UInt32 := 0
  srtt : UInt32 := 0
  rttVar : UInt32 := 0
  tfoFlags : UInt32 := 0
  txPackets : UInt64 := 0
  txBytes : UInt64 := 0
  txRetransmitBytes : UInt64 := 0
  rxPackets : UInt64 := 0
  rxBytes : UInt64 := 0
  rxOutOfOrderBytes : UInt64 := 0
  txRetransmitPackets : UInt64 := 0
  deriving DecidableEq, Repr

structure SysInfo where
  state : UInt8 := 0
  stateName : String := ""
  txWindowScale : UInt8 := 0
  rxWindowScale : UInt8 := 0
  txOptions : List TCPOption := []
  rxOptions : List TCPOption := []
  flags : String := ""
  rto : Int64 := 0
  maxSeg : UInt32 := 0
  txSSThreshold : UInt32 := 0
  txCWindow : UInt32 := 0
  txWindow : UInt32 := 0
  txSendBufferBytes : UInt32 := 0
  rxWindow : UInt32 := 0
  rttCur : Int64 := 0
  srtt : Int64 := 0
  rttVar : Int64 := 0
  tfoFlags : UInt32 := 0
  txPackets : UInt64 := 0
  txBytes : UInt64 := 0
  txRetransmitBytes : UInt64 := 0
  rxPackets : UInt64 := 0
  rxBytes : UInt64 := 0
  rxOutOfOrderBytes : UInt64 := 0
  txRetransmitPackets : UInt64 := 0

-- xnu `bsd/netinet/tcp_fsm.h`
def tcpsClosed : UInt8 := 0
def tcpsListen : UInt8 := 1
def tcpsSynSent : UInt8 := 2
def tcpsSynReceived : UInt8 := 3
def tcpsEstablished : UInt8 := 4
def tcpsCloseWait : UInt8 := 5
def tcpsFinWait1 : UInt8 := 6
def tcpsClosing : UInt8 := 7
def tcpsLastAck : UInt8 := 8
def tcpsFinWait2 : UInt8 := 9
def tcpsTimeWait : UInt8 := 10

def tcpStateMap : List (UInt8 × String) :=
  [(tcpsEstablished, "ESTABLISHED"), (tcpsSynSent, "SYN_SENT"), (tcpsSynReceived, "SYN_RECV"),
    (tcpsFinWait1, "FIN_WAIT1"), (tcpsFinWait2, "FIN_WAIT2"), (tcpsTimeWait, "TIME_WAIT"),
    (tcpsClosed, "CLOSE"), (tcpsCloseWait, "CLOSE_WAIT"), (tcpsLastAck, "LAST_ACK"),
    (tcpsListen, "LISTEN"), (tcpsClosing, "CLOSING")]

def sysFlagLossRecovery : UInt32 := 0x1
def sysFlagReorderingDetected : UInt32 := 0x2

def tcpFlagsMap : List (UInt32 × String) :=
  [(sysFlagLossRecovery, "LOSS_RECOVERY"), (sysFlagReorderingDetected, "REORDERING_DETECTED")]

def tcpFlags : List UInt32 :=
  [sysFlagLossRecovery, sysFlagReorderingDetected]

def tcpInfoTCPFlagsString (options : UInt32) : String :=
  let opts := tcpFlags.foldl
    (fun opts flag => if options &&& flag != 0 then opts ++ [Go.index tcpFlagsMap flag] else opts)
    []
  String.intercalate "," opts

-- the `TCPCI_OPT_*` bits of xnu `bsd/netinet/tcp.h`
def tcpciOptTimestamps : UInt32 := 0x1
def tcpciOptSack : UInt32 := 0x2
def tcpciOptWscale : UInt32 := 0x4
def tcpciOptEcn : UInt32 := 0x8

def tcpOptionsMap : List (UInt32 × String) :=
  [(tcpciOptTimestamps, "Timestamps"), (tcpciOptSack, "SACK"), (tcpciOptWscale, "WindowScale"),
    (tcpciOptEcn, "ECN")]

def tcpOptions : List UInt32 :=
  [tcpciOptTimestamps, tcpciOptSack, tcpciOptWscale, tcpciOptEcn]

-- converts the millisecond fields to `time.Duration`
def timeFieldMultiplier : Int64 := Go.time.Millisecond

-- `time.Duration(x)` of a `uint32`
def duration (x : UInt32) : Int64 :=
  Int64.ofNat x.toNat

namespace RawInfo

-- one pass of the loop over `tcpOptions`
def unpackOption (packed : RawInfo) (acc : List TCPOption × List TCPOption) (flag : UInt32)
    : List TCPOption × List TCPOption :=
  if packed.options &&& flag = 0 then
    acc
  else if flag ∈ [tcpciOptSack, tcpciOptEcn, tcpciOptTimestamps] then
    (acc.1 ++ [⟨Go.index tcpOptionsMap flag, 0⟩],
      acc.2 ++ [⟨Go.index tcpOptionsMap flag, 0⟩])
  else if flag = tcpciOptWscale then
    (acc.1 ++ [⟨Go.index tcpOptionsMap flag, packed.sendWscale.toUInt64⟩],
      acc.2 ++ [⟨Go.index tcpOptionsMap flag, packed.recvWscale.toUInt64⟩])
  else
    acc

def unpackOptions (packed : RawInfo) : List TCPOption × List TCPOption :=
  tcpOptions.foldl packed.unpackOption ([], [])

@[simps]
def unpack (packed : RawInfo) : SysInfo :=
  { state := packed.state
    stateName := Go.index tcpStateMap packed.state
    txWindowScale := packed.sendWscale
    rxWindowScale := packed.recvWscale
    flags := tcpInfoTCPFlagsString packed.flags
    rto := duration packed.rto * timeFieldMultiplier
    maxSeg := packed.maxSeg
    txSSThreshold := packed.sendSSThresh
    txCWindow := packed.sendCwnd
    txWindow := packed.sendWnd
    txSendBufferBytes := packed.sendSBBytes
    rxWindow := packed.recvWnd
    rttCur := duration packed.rttCur * timeFieldMultiplier
    srtt := duration packed.srtt * timeFieldMultiplier
    rttVar := duration packed.rttVar * timeFieldMultiplier
    tfoFlags := packed.tfoFlags
    txPackets := packed.txPackets
    txBytes := packed.txBytes
    txRetransmitBytes := packed.txRetransmitBytes
    rxPackets := packed.rxPackets
    rxBytes := packed.rxBytes
    rxOutOfOrderBytes := packed.rxOutOfOrderBytes
    txRetransmitPackets := packed.txRetransmitPackets
    txOptions := packed.unpackOptions.1
    rxOptions := packed.unpackOptions.2 }

end RawInfo

namespace SysInfo

def toMap (s : SysInfo) : Go.Map Value :=
  ⟨[("state", .string s.stateName),
    ("txWindowScale", .uint8 s.txWindowScale),
    ("rxWindowScale", .uint8 s.rxWindowScale),
    ("txOptions", .options s.txOptions),
    ("rxOptions", .options s.rxOptions),
    ("flags", .string s.flags),
    ("rto", .duration s.rto),
    ("mss", .uint32 s.maxSeg),
    ("txSSThreshold", .uint32 s.txSSThreshold),
    ("txCWindowBytes", .uint32 s.txCWindow),
    ("txWindow", .uint32 s.txWindow),
    ("txSendBufferBytes", .uint32 s.txSendBufferBytes),
    ("rxWindow", .uint32 s.rxWindow),
    ("rttCur", .duration s.rttCur),
    ("rttSmoothed", .duration s.srtt),
    ("rttVar", .duration s.rttVar),
    ("tfoFlags", .uint32 s.tfoFlags),
    ("txPackets", .uint64 s.txPackets),
    ("txBytes", .uint64 s.txBytes),
    ("txRetransmitBytes", .uint64 s.txRetransmitBytes),
    ("rxPackets", .uint64 s.rxPackets),
    ("rxBytes", .uint64 s.rxBytes),
    ("rxOutOfOrderBytes", .uint64 s.rxOutOfOrderBytes),
    ("txRetransmitPackets", .uint64 s.txRetransmitPackets)]⟩

-- `if c { warns = append(warns, label+strconv.FormatUint(n, 10)) }`
def warnIf (c : Bool) (label : String) (n : UInt64) : List String :=
  if c then [label ++ Go.strconv.formatUint n] else []

def warnings (s : SysInfo) : List String :=
  warnIf (s.txRetransmitBytes > 0) "retransmitBytes=" s.txRetransmitBytes ++
    warnIf (s.txRetransmitPackets > 0) "retransmitPackets=" s.txRetransmitPackets ++
    warnIf (s.rxOutOfOrderBytes > 0) "outOfOrderBytes=" s.rxOutOfOrderBytes

def toInfo (s : SysInfo) : Info SysInfo :=
  { state := s.stateName
    txOptions := s.txOptions
    rxOptions := s.rxOptions
    txMSS := s.maxSeg.toUInt64
    rxMSS := s.maxSeg.toUInt64
    rtt := s.srtt
    rttVar := s.rttVar
    rto := s.rto
    rxWindow := s.rxWindow.toUInt64
    txSSThreshold := s.txSSThreshold.toUInt64
    txWindowBytes := s.txCWindow.toUInt64
    txWindowSegs := s.txWindow.toUInt64
    retransmits := s.txRetransmitPackets
    sys := s }

end SysInfo

-- `syscall` is what `getsockopt(TCP_CONNECTION_INFO)` returned
def getTCPInfo (syscall : Except Go.Error RawInfo) : Option SysInfo × Option Go.Error :=
  match syscall with
  | .error err => (none, some err)
  | .ok value => (some value.unpack, none)

def supported : Bool := true

namespace RawInfo

-- the entry the loop appends for an option bit, reporting `wscale` for window scaling
def optionOf (wscale : UInt8) (flag : UInt32) : TCPOption :=
  ⟨Go.index tcpOptionsMap flag, if flag = tcpciOptWscale then wscale.toUInt64 else 0⟩

theorem unpackOption_eq_collectStep (packed : RawInfo) (acc : List TCPOption × List TCPOption)
    {flag : UInt32} (hflag : flag ∈ tcpOptions)
    : packed.unpackOption acc flag =
        Scan.collectStep (fun flag => packed.options &&& flag != 0)
          (optionOf packed.sendWscale) (optionOf packed.recvWscale) acc flag := by
  unfold unpackOption Scan.collectStep optionOf
  simp only [tcpOptions, List.mem_cons, List.not_mem_nil, or_false] at hflag
  rcases hflag with rfl | rfl | rfl | rfl <;> simp [tcpciOptTimestamps, tcpciOptSack,
    tcpciOptWscale, tcpciOptEcn]

theorem unpack_txOptions_rxOptions (packed : RawInfo)
    : packed.unpack.txOptions =
        (tcpOptions.filter (fun flag => packed.options &&& flag != 0)).map
          (optionOf packed.sendWscale) ∧
      packed.unpack.rxOptions =
        (tcpOptions.filter (fun flag => packed.options &&& flag != 0)).map
          (optionOf packed.recvWscale) := by
  have hloop : packed.unpackOptions =
      tcpOptions.foldl (Scan.collectStep (fun flag => packed.options &&& flag != 0)
        (optionOf packed.sendWscale) (optionOf packed.recvWscale)) ([], []) := by
    apply List.foldl_ext
    intro acc flag hflag
    exact unpackOption_eq_collectStep packed acc hflag
  rw [unpack_txOptions, unpack_rxOptions, hloop, Scan.foldl_collectStep]
  exact ⟨rfl, rfl⟩

theorem unpack_windowScale_option (packed : RawInfo) (h : packed.options &&& tcpciOptWscale ≠ 0)
    : ⟨"WindowScale", packed.sendWscale.toUInt64⟩ ∈ packed.unpack.txOptions ∧
      ⟨"WindowScale", packed.recvWscale.toUInt64⟩ ∈ packed.unpack.rxOptions := by
  have hmem : tcpciOptWscale ∈ tcpOptions.filter (fun flag => packed.options &&& flag != 0) := by
    simp [tcpOptions, h]
  obtain ⟨htx, hrx⟩ := unpack_txOptions_rxOptions packed
  rw [htx, hrx]
  exact ⟨List.mem_map_of_mem hmem, List.mem_map_of_mem hmem⟩

example : (⟨"WindowScale", 7⟩ : TCPOption) ∈
    (⟨0, 7, 8, tcpciOptWscale, 0, 0, 0, 0, 0, 0, 0, 0, 0, 0, 0, 0, 0, 0, 0, 0, 0, 0, 0⟩ :
      RawInfo).unpack.txOptions := by
  decide

end RawInfo

end Tcpinfo.Darwin
