import Conniver.Kernel.Version
import Conniver.Lib.Layout

/-!
`RawTCPInfo` of `tcpinfo_linux.go`, the Go mirror of the kernel's `struct tcp_info`, and its
memory layout. `bitfield0` packs `tcpi_snd_wscale : 4, tcpi_rcv_wscale : 4`, and `bitfield1`
packs `tcpi_delivery_rate_app_limited : 1, tcpi_fastopen_client_fail : 2`. The layout is
Go's: every member is an unsigned integer aligned to its own size, placed in declaration
order. The kernel fills only the first `sizeOfRawTCPInfo` bytes it is asked for.
-/

namespace Tcpinfo.Linux

structure RawTCPInfo where
  state : UInt8 := 0
  caState : UInt8 := 0
  retransmits : UInt8 := 0
  probes : UInt8 := 0
  backoff : UInt8 := 0
  options : UInt8 := 0
  bitfield0 : UInt8 := 0
  bitfield1 : UInt8 := 0
  rto : UInt32 := 0
  ato : UInt32 := 0
  sndMss : UInt32 := 0
  rcvMss : UInt32 := 0
  unacked : UInt32 := 0
  sacked : UInt32 := 0
  lost : UInt32 := 0
  retrans : UInt32 := 0
  fackets : UInt32 := 0
  lastDataSent : UInt32 := 0
  lastAckSent : UInt32 := 0
  lastDataRecv : UInt32 := 0
  lastAckRecv : UInt32 := 0
  pmtu : UInt32 := 0
  rcvSsthresh : UInt32 := 0
  rtt : UInt32 := 0
  rttvar : UInt32 := 0
  sndSsthresh : UInt32 := 0
  sndCwnd : UInt32 := 0
  advmss : UInt32 := 0
  reordering : UInt32 := 0
  rcvRtt : UInt32 := 0
  rcvSpace : UInt32 := 0
  totalRetrans : UInt32 := 0
  pacingRate : UInt64 := 0
  maxPacingRate : UInt64 := 0
  bytesAcked : UInt64 := 0
  bytesReceived : UInt64 := 0
  segsOut : UInt32 := 0
  segsIn : UInt32 := 0
  notsentBytes : UInt32 := 0
  minRtt : UInt32 := 0
  dataSegsIn : UInt32 := 0
  dataSegsOut : UInt32 := 0
  deliveryRate : UInt64 := 0
  busyTime : UInt64 := 0
  rwndLimited : UInt64 := 0
  sndbufLimited : UInt64 := 0
  delivered : UInt32 := 0
  deliveredCe : UInt32 := 0
  bytesSent : UInt64 := 0
  bytesRetrans : UInt64 := 0
  dsackDups : UInt32 := 0
  reordSeen : UInt32 := 0
  rcvOoopack : UInt32 := 0
  sndWnd : UInt32 := 0
  rcvWnd : UInt32 := 0
  rehash : UInt32 := 0
  totalRto : UInt16 := 0
  totalRtoRecoveries : UInt16 := 0
  totalRtoTime : UInt32 := 0
  deriving DecidableEq, Repr

-- the members of `RawTCPInfo`, in declaration order
inductive Member where
  | state | caState | retransmits | probes | backoff | options | bitfield0 | bitfield1 | rto
  | ato | sndMss | rcvMss | unacked | sacked | lost | retrans | fackets | lastDataSent
  | lastAckSent | lastDataRecv | lastAckRecv | pmtu | rcvSsthresh | rtt | rttvar | sndSsthresh
  | sndCwnd | advmss | reordering | rcvRtt | rcvSpace | totalRetrans | pacingRate
  | maxPacingRate | bytesAcked | bytesReceived | segsOut | segsIn | notsentBytes | minRtt
  | dataSegsIn | dataSegsOut | deliveryRate | busyTime | rwndLimited | sndbufLimited
  | delivered | deliveredCe | bytesSent | bytesRetrans | dsackDups | reordSeen | rcvOoopack
  | sndWnd | rcvWnd | rehash | totalRto | totalRtoRecoveries | totalRtoTime
  deriving DecidableEq, Repr

namespace Member

def all : List Member :=
  [.state, .caState, .retransmits, .probes, .backoff, .options, .bitfield0, .bitfield1, .rto,
    .ato, .sndMss, .rcvMss, .unacked, .sacked, .lost, .retrans, .fackets, .lastDataSent,
    .lastAckSent, .lastDataRecv, .lastAckRecv, .pmtu, .rcvSsthresh, .rtt, .rttvar,
    .sndSsthresh, .sndCwnd, .advmss, .reordering, .rcvRtt, .rcvSpace, .totalRetrans,
    .pacingRate, .maxPacingRate, .bytesAcked, .bytesReceived, .segsOut, .segsIn, .notsentBytes,
    .minRtt, .dataSegsIn, .dataSegsOut, .deliveryRate, .busyTime, .rwndLimited, .sndbufLimited,
    .delivered, .deliveredCe, .bytesSent, .bytesRetrans, .dsackDups, .reordSeen, .rcvOoopack,
    .sndWnd, .rcvWnd, .rehash, .totalRto, .totalRtoRecoveries, .totalRtoTime]

-- the size of the member's Go type, `uint8` to `uint64`
def size : Member → Nat
  | .state | .caState | .retransmits | .probes | .backoff | .options | .bitfield0
  | .bitfield1 => 1
  | .totalRto | .totalRtoRecoveries => 2
  | .rto | .ato | .sndMss | .rcvMss | .unacked | .sacked | .lost | .retrans | .fackets
  | .lastDataSent | .lastAckSent | .lastDataRecv | .lastAckRecv | .pmtu | .rcvSsthresh
  | .rtt | .rttvar | .sndSsthresh | .sndCwnd | .advmss | .reordering | .rcvRtt
  | .rcvSpace | .totalRetrans | .segsOut | .segsIn | .notsentBytes | .minRtt
  | .dataSegsIn | .dataSegsOut | .delivered | .deliveredCe | .dsackDups | .reordSeen
  | .rcvOoopack | .sndWnd | .rcvWnd | .rehash | .totalRtoTime => 4
  | .pacingRate | .maxPacingRate | .bytesAcked | .bytesReceived | .deliveryRate
  | .busyTime | .rwndLimited | .sndbufLimited | .bytesSent | .bytesRetrans => 8

def field (m : Member) : Layout.Field :=
  ⟨m.size, m.size, by cases m <;> decide⟩

def layout : List Layout.Field :=
  all.map field

-- the offset just past the member
def endOffset (m : Member) : Nat :=
  Layout.endOf layout (all.idxOf m)

end Member

end Tcpinfo.Linux
