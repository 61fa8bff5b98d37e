import Conniver.Tcpinfo.Linux.Raw
import Conniver.Tcpinfo.Linux.Init
import Conniver.Tcpinfo.Linux.SysInfo
import Conniver.Tcpinfo.Darwin
import Mathlib.Tactic.Simps.Basic

/-!
`RawTCPInfo.Unpack` of `tcpinfo_linux.go`: the decoder from the kernel's record to `SysInfo`.
The members that older kernels lack are gated by the flags of the version adaptation, read
from the package state `Globals`; the window-scale nibbles and the two bit fields are taken
apart; and the negotiated options are listed by a loop over the option bits.
-/

namespace Tcpinfo.Linux

open Nullable KernelVersionFlag

-- `include/net/tcp_states.h`
def tcpEstablished : UInt8 := 1
def tcpSynSent : UInt8 := 2
def tcpSynRecv : UInt8 := 3
def tcpFinWait1 : UInt8 := 4
def tcpFinWait2 : UInt8 := 5
def tcpTimeWait : UInt8 := 6
def tcpClose : UInt8 := 7
def tcpCloseWait : UInt8 := 8
def tcpLastAck : UInt8 := 9
def tcpListen : UInt8 := 10
def tcpClosing : UInt8 := 11
def tcpNewSynRecv : UInt8 := 12

def tcpStateMap : List (UInt8 × String) :=
  [(tcpEstablished, "ESTABLISHED"), (tcpSynSent, "SYN_SENT"), (tcpSynRecv, "SYN_RECV"),
    (tcpFinWait1, "FIN_WAIT1"), (tcpFinWait2, "FIN_WAIT2"), (tcpTimeWait, "TIME_WAIT"),
    (tcpClose, "CLOSE"), (tcpCloseWait, "CLOSE_WAIT"), (tcpLastAck, "LAST_ACK"),
    (tcpListen, "LISTEN"), (tcpClosing, "CLOSING")]

-- the `TCPI_OPT_*` bits of `uapi/linux/tcp.h`
def tcpiOptTimestamps : UInt8 := 1
def tcpiOptSack : UInt8 := 2
def tcpiOptWscale : UInt8 := 4
def tcpiOptEcn : UInt8 := 8
def tcpiOptEcnSeen : UInt8 := 16
def tcpiOptSynData : UInt8 := 32
def tcpiOptUsecTs : UInt8 := 64
def tcpiOptTfoChild : UInt8 := 128

def tcpOptionsMap : List (UInt8 × String) :=
  [(tcpiOptTimestamps, "Timestamps"), (tcpiOptSack, "SACK"), (tcpiOptWscale, "WindowScale"),
    (tcpiOptEcn, "ECN"), (tcpiOptEcnSeen, "ECNSeen"), (tcpiOptSynData, "SYNData"),
    (tcpiOptUsecTs, "UsecTS"), (tcpiOptTfoChild, "TFOChild")]

def tcpOptions : List UInt8 :=
  [tcpiOptTimestamps, tcpiOptSack, tcpiOptWscale, tcpiOptEcn, tcpiOptEcnSeen, tcpiOptSynData,
    tcpiOptUsecTs, tcpiOptTfoChild]

-- converts the kernel's microsecond fields to `time.Duration`
def timeFieldMultiplier : Int64 := Go.time.Microsecond

-- `time.Duration(x)` of a `uint32`
def duration (x : UInt32) : Int64 :=
  Int64.ofNat x.toNat

namespace RawTCPInfo

-- one pass of the loop over `tcpOptions`, appending to `TxOptions` and `RxOptions`
def unpackOption (packed : RawTCPInfo) (acc : List TCPOption × List TCPOption) (flag : UInt8)
    : List TCPOption × List TCPOption :=
  if packed.options &&& flag = 0 then
    acc
  else if flag ∈ [tcpiOptTimestamps, tcpiOptSack, tcpiOptEcn, tcpiOptEcnSeen, tcpiOptSynData,
      tcpiOptUsecTs, tcpiOptTfoChild] then
    (acc.1 ++ [⟨Go.index tcpOptionsMap flag, 0⟩],
      acc.2 ++ [⟨Go.index tcpOptionsMap flag, 0⟩])
  else if flag = tcpiOptWscale then
    (acc.1 ++ [⟨Go.index tcpOptionsMap flag, packed.sndWnd.toUInt64⟩],
      acc.2 ++ [⟨Go.index tcpOptionsMap flag, packed.rcvWnd.toUInt64⟩])
  else
    acc

def unpackOptions (packed : RawTCPInfo) : List TCPOption × List TCPOption :=
  tcpOptions.foldl packed.unpackOption ([], [])

@[simps]
def unpack (g : Globals) (packed : RawTCPInfo) : SysInfo :=
  { state := packed.state
    stateName := Go.index tcpStateMap packed.state
    caState := packed.caState
    retransmits := packed.retransmits
    probes := packed.probes
    backoff := packed.backoff
    txWindowScale := packed.bitfield0 &&& 0x0f
    rxWindowScale := packed.bitfield0 >>> 4
    deliveryRateAppLimited :=
      gated (g.flags kernelVersionIsAtLeast_4_9) (packed.bitfield1 &&& 1 == 1)
    fastOpenClientFail :=
      gated (g.flags kernelVersionIsAtLeast_5_5) ((packed.bitfield1 >>> 1) &&& 0x3)
    rto := duration packed.rto * timeFieldMultiplier
    ato := duration packed.ato * timeFieldMultiplier
    txMSS := packed.sndMss
    rxMSS := packed.rcvMss
    unAcked := packed.unacked
    sacked := packed.sacked
    lost := packed.lost
    retrans := packed.retrans
    fackets := packed.fackets
    lastTxAt := duration packed.lastDataSent * timeFieldMultiplier
    lastTxAckAt := duration packed.lastAckSent * timeFieldMultiplier
    lastRxAt := duration packed.lastDataRecv * timeFieldMultiplier
    lastRxAckAt := duration packed.lastAckRecv * timeFieldMultiplier
    pmtu := packed.pmtu
    rxSSThreshold := packed.rcvSsthresh
    rtt := duration packed.rtt * timeFieldMultiplier
    rttVar := duration packed.rttvar * timeFieldMultiplier
    txSSThreshold := packed.sndSsthresh
    txCWindow := packed.sndCwnd
    advMSS := packed.advmss
    reordering := packed.reordering
    rxRTT := duration packed.rcvRtt * timeFieldMultiplier
    rxSpace := packed.rcvSpace
    totalRetrans := packed.totalRetrans
    pacingRate := gated (g.flags kernelVersionIsAtLeast_3_15) packed.pacingRate
    maxPacingRate := gated (g.flags kernelVersionIsAtLeast_3_15) packed.maxPacingRate
    bytesAcked := gated (g.flags kernelVersionIsAtLeast_4_1) packed.bytesAcked
    bytesReceived := gated (g.flags kernelVersionIsAtLeast_4_1) packed.bytesReceived
    segsOut := gated (g.flags kernelVersionIsAtLeast_4_2) packed.segsOut
    segsIn := gated (g.flags kernelVersionIsAtLeast_4_2) packed.segsIn
    notSentBytes := gated (g.flags kernelVersionIsAtLeast_4_6) packed.notsentBytes
    minRTT :=
      gated (g.flags kernelVersionIsAtLeast_4_6) (duration packed.minRtt * timeFieldMultiplier)
    dataSegsIn := gated (g.flags kernelVersionIsAtLeast_4_6) packed.dataSegsIn
    dataSegsOut := gated (g.flags kernelVersionIsAtLeast_4_6) packed.dataSegsOut
    deliveryRate := gated (g.flags kernelVersionIsAtLeast_4_9) packed.deliveryRate
    busyTime := gated (g.flags kernelVersionIsAtLeast_4_10) packed.busyTime
    rxWindowLimited := gated (g.flags kernelVersionIsAtLeast_4_10) packed.rwndLimited
    txBufferLimited := gated (g.flags kernelVersionIsAtLeast_4_10) packed.sndbufLimited
    delivered := gated (g.flags kernelVersionIsAtLeast_4_18) packed.delivered
    deliveredCE := gated (g.flags kernelVersionIsAtLeast_4_18) packed.deliveredCe
    bytesSent := gated (g.flags kernelVersionIsAtLeast_4_19) packed.bytesSent
    bytesRetrans := gated (g.flags kernelVersionIsAtLeast_4_19) packed.bytesRetrans
    dsackDups := gated (g.flags kernelVersionIsAtLeast_4_19) packed.dsackDups
    reordSeen := gated (g.flags kernelVersionIsAtLeast_4_19) packed.reordSeen
    rxOutOfOrder := gated (g.flags kernelVersionIsAtLeast_5_4) packed.rcvOoopack
    txWindow := gated (g.flags kernelVersionIsAtLeast_5_4) packed.sndWnd
    rxWindow := gated (g.flags kernelVersionIsAtLeast_6_2) packed.rcvWnd
    rehash := gated (g.flags kernelVersionIsAtLeast_6_2) packed.rehash
    totalRTO := gated (g.flags kernelVersionIsAtLeast_6_2) packed.totalRto
    totalRTORecoveries := gated (g.flags kernelVersionIsAtLeast_6_2) packed.totalRtoRecoveries
    totalRTOTime := gated (g.flags kernelVersionIsAtLeast_6_2) packed.totalRtoTime
    txOptions := packed.unpackOptions.1
    rxOptions := packed.unpackOptions.2 }

end RawTCPInfo

theorem toInt_duration_mul_timeFieldMultiplier (x : UInt32)
    : (duration x * timeFieldMultiplier).toInt = x.toNat * 1000 := by
  have hx := x.toNat_lt
  have hmul : timeFieldMultiplier = Int64.ofNat 1000 := by decide
  rw [duration, hmul, Go.toInt_ofNat_mul_ofNat (by omega)]
  rfl

theorem duration_mul_timeFieldMultiplier (x : UInt32)
    : duration x * timeFieldMultiplier = Int64.ofInt (x.toNat * 1000) := by
  have hx := x.toNat_lt
  apply Int64.toInt_inj.1
  rw [toInt_duration_mul_timeFieldMultiplier, Int64.toInt_ofInt_of_le] <;> omega

theorem bitfield_and_one (b : UInt8) : (b &&& 1 == 1) = decide (b.toNat % 2 = 1) := by
  have hand : (b &&& 1).toNat = b.toNat % 2 := by
    rw [UInt8.toNat_and]
    exact Nat.and_two_pow_sub_one_eq_mod b.toNat 1
  by_cases hb : b.toNat % 2 = 1
  . have : b &&& 1 = 1 := UInt8.toNat_inj.1 (by rw [hand, hb]; rfl)
    simp [this, hb]
  . have : b &&& 1 ≠ 1 := fun h => hb (by rw [← hand, h]; rfl)
    simp [this, hb]

theorem bitfield_shiftRight_one_and_three (b : UInt8)
    : (b >>> 1) &&& 0x3 = UInt8.ofNat (b.toNat / 2 % 4) := by
  apply UInt8.toNat_inj.1
  have hthree : (0x3 : UInt8).toNat = 2 ^ 2 - 1 := rfl
  have hshift : (b >>> 1).toNat = b.toNat / 2 := by
    rw [UInt8.toNat_shiftRight, Nat.shiftRight_eq_div_pow]
    rfl
  rw [UInt8.toNat_and, hshift, hthree, Nat.and_two_pow_sub_one_eq_mod, UInt8.toNat_ofNat']
  omega

namespace NullableField

-- the flag whose block in `Unpack` fills the field
def gate : NullableField → KernelVersionFlag
  | .deliveryRateAppLimited => kernelVersionIsAtLeast_4_9
  | .fastOpenClientFail => kernelVersionIsAtLeast_5_5
  | .pacingRate => kernelVersionIsAtLeast_3_15
  | .maxPacingRate => kernelVersionIsAtLeast_3_15
  | .bytesAcked => kernelVersionIsAtLeast_4_1
  | .bytesReceived => kernelVersionIsAtLeast_4_1
  | .segsOut => kernelVersionIsAtLeast_4_2
  | .segsIn => kernelVersionIsAtLeast_4_2
  | .notSentBytes => kernelVersionIsAtLeast_4_6
  | .minRTT => kernelVersionIsAtLeast_4_6
  | .dataSegsIn => kernelVersionIsAtLeast_4_6
  | .dataSegsOut => kernelVersionIsAtLeast_4_6
  | .deliveryRate => kernelVersionIsAtLeast_4_9
  | .busyTime => kernelVersionIsAtLeast_4_10
  | .rxWindowLimited => kernelVersionIsAtLeast_4_10
  | .txBufferLimited => kernelVersionIsAtLeast_4_10
  | .delivered => kernelVersionIsAtLeast_4_18
  | .deliveredCE => kernelVersionIsAtLeast_4_18
  | .bytesSent => kernelVersionIsAtLeast_4_19
  | .bytesRetrans => kernelVersionIsAtLeast_4_19
  | .dsackDups => kernelVersionIsAtLeast_4_19
  | .reordSeen => kernelVersionIsAtLeast_4_19
  | .rxOutOfOrder => kernelVersionIsAtLeast_5_4
  | .txWindow => kernelVersionIsAtLeast_5_4
  | .rxWindow => kernelVersionIsAtLeast_6_2
  | .rehash => kernelVersionIsAtLeast_6_2
  | .totalRTO => kernelVersionIsAtLeast_6_2
  | .totalRTORecoveries => kernelVersionIsAtLeast_6_2
  | .totalRTOTime => kernelVersionIsAtLeast_6_2

/--
The member the field reports, in the field's own unit: `min_rtt` in nanoseconds, and the
two fields of `bitfield1` by their bit positions.
-/
def rawValue (packed : RawTCPInfo) : NullableField → Value
  | .deliveryRateAppLimited => .bool (packed.bitfield1.toNat % 2 = 1)
  | .fastOpenClientFail => .uint8 (UInt8.ofNat (packed.bitfield1.toNat / 2 % 4))
  | .minRTT => .duration (Int64.ofInt (packed.minRtt.toNat * 1000))
  | .pacingRate => .uint64 packed.pacingRate
  | .maxPacingRate => .uint64 packed.maxPacingRate
  | .bytesAcked => .uint64 packed.bytesAcked
  | .bytesReceived => .uint64 packed.bytesReceived
  | .segsOut => .uint32 packed.segsOut
  | .segsIn => .uint32 packed.segsIn
  | .notSentBytes => .uint32 packed.notsentBytes
  | .dataSegsIn => .uint32 packed.dataSegsIn
  | .dataSegsOut => .uint32 packed.dataSegsOut
  | .deliveryRate => .uint64 packed.deliveryRate
  | .busyTime => .uint64 packed.busyTime
  | .rxWindowLimited => .uint64 packed.rwndLimited
  | .txBufferLimited => .uint64 packed.sndbufLimited
  | .delivered => .uint32 packed.delivered
  | .deliveredCE => .uint32 packed.deliveredCe
  | .bytesSent => .uint64 packed.bytesSent
  | .bytesRetrans => .uint64 packed.bytesRetrans
  | .dsackDups => .uint32 packed.dsackDups
  | .reordSeen => .uint32 packed.reordSeen
  | .rxOutOfOrder => .uint32 packed.rcvOoopack
  | .txWindow => .uint32 packed.sndWnd
  | .rxWindow => .uint32 packed.rcvWnd
  | .rehash => .uint32 packed.rehash
  | .totalRTO => .uint16 packed.totalRto
  | .totalRTORecoveries => .uint16 packed.totalRtoRecoveries
  | .totalRTOTime => .uint32 packed.totalRtoTime

theorem valid_unpack (g : Globals) (packed : RawTCPInfo) (F : NullableField)
    : F.valid (packed.unpack g) = g.flags F.gate := by
  cases F <;> simp [valid, gate]

theorem value_unpack_of_valid {g : Globals} {packed : RawTCPInfo} {F : NullableField}
    (h : F.valid (packed.unpack g) = true) : F.value (packed.unpack g) = F.rawValue packed := by
  rw [valid_unpack] at h
  cases F <;> simp only [gate] at h <;> simp [value, rawValue, gated, h, bitfield_and_one,
    bitfield_shiftRight_one_and_three, duration_mul_timeFieldMultiplier]

end NullableField

namespace RawTCPInfo

-- the entry the loop appends for an option bit, reporting `window` for window scaling
def optionOf (window : UInt32) (flag : UInt8) : TCPOption :=
  ⟨Go.index tcpOptionsMap flag, if flag = tcpiOptWscale then window.toUInt64 else 0⟩

-- the bits of `options` that are set, in the order of `tcpOptions`
def setOptions (packed : RawTCPInfo) : List UInt8 :=
  tcpOptions.filter (fun flag => packed.options &&& flag != 0)

theorem unpackOption_eq_collectStep (packed : RawTCPInfo) (acc : List TCPOption × List TCPOption)
    {flag : UInt8} (hflag : flag ∈ tcpOptions)
    : packed.unpackOption acc flag =
        Scan.collectStep (fun flag => packed.options &&& flag != 0)
          (optionOf packed.sndWnd) (optionOf packed.rcvWnd) acc flag := by
  unfold unpackOption Scan.collectStep optionOf
  simp only [tcpOptions, List.mem_cons, List.not_mem_nil, or_false] at hflag
  rcases hflag with rfl | rfl | rfl | rfl | rfl | rfl | rfl | rfl <;> simp [tcpiOptTimestamps,
    tcpiOptSack, tcpiOptWscale, tcpiOptEcn, tcpiOptEcnSeen, tcpiOptSynData, tcpiOptUsecTs,
    tcpiOptTfoChild]

theorem unpackOptions_eq (packed : RawTCPInfo)
    : packed.unpackOptions =
        (packed.setOptions.map (optionOf packed.sndWnd),
          packed.setOptions.map (optionOf packed.rcvWnd)) := by
  unfold unpackOptions
  rw [List.foldl_ext _ _ _ (fun acc flag hflag => unpackOption_eq_collectStep packed acc hflag),
    Scan.foldl_collectStep]
  rfl

theorem tcpOptions_sorted : tcpOptions.Pairwise (· < ·) := by
  decide

theorem setOptions_spec (packed : RawTCPInfo)
    : packed.setOptions.Pairwise (· < ·) ∧
      ∀ flag, flag ∈ packed.setOptions ↔ flag ∈ tcpOptions ∧ packed.options &&& flag ≠ 0 := by
  constructor
  . exact tcpOptions_sorted.sublist List.filter_sublist
  . intro flag
    simp [setOptions]

theorem unpack_txOptions_rxOptions (g : Globals) (packed : RawTCPInfo)
    : (packed.unpack g).txOptions = packed.setOptions.map (optionOf packed.sndWnd) ∧
      (packed.unpack g).rxOptions = packed.setOptions.map (optionOf packed.rcvWnd) := by
  constructor
  . rw [unpack_txOptions, unpackOptions_eq]
  . rw [unpack_rxOptions, unpackOptions_eq]

theorem unpack_windowScale_option_is_window (g : Globals)
    : let packed : RawTCPInfo :=
        { options := tcpiOptWscale, bitfield0 := 0x87, sndWnd := 65535, rcvWnd := 64240 }
      (packed.unpack g).txOptions = [⟨"WindowScale", 65535⟩] ∧
        (packed.unpack g).txWindowScale = 7 ∧
        (packed.unpack g).rxOptions = [⟨"WindowScale", 64240⟩] ∧
        (packed.unpack g).rxWindowScale = 8 := by
  intro packed
  simp only [packed, unpack_txOptions, unpack_rxOptions, unpack_txWindowScale,
    unpack_rxWindowScale]
  refine ⟨rfl, by decide, rfl, by decide⟩

theorem unpack_windowScale_option_vs_darwin (g : Globals) (packed : RawTCPInfo)
    (d : Darwin.RawInfo) (h : packed.options &&& tcpiOptWscale ≠ 0)
    (hd : d.options &&& Darwin.tcpciOptWscale ≠ 0)
    : ⟨"WindowScale", packed.sndWnd.toUInt64⟩ ∈ (packed.unpack g).txOptions ∧
      ⟨"WindowScale", packed.rcvWnd.toUInt64⟩ ∈ (packed.unpack g).rxOptions ∧
      ⟨"WindowScale", d.unpack.txWindowScale.toUInt64⟩ ∈ d.unpack.txOptions ∧
      ⟨"WindowScale", d.unpack.rxWindowScale.toUInt64⟩ ∈ d.unpack.rxOptions := by
  have hmem : tcpiOptWscale ∈ packed.setOptions := by
    simp [setOptions, tcpOptions, h]
  have hname : Go.index tcpOptionsMap tcpiOptWscale = "WindowScale" := rfl
  obtain ⟨htx, hrx⟩ := unpack_txOptions_rxOptions g packed
  obtain ⟨hdtx, hdrx⟩ := Darwin.RawInfo.unpack_windowScale_option d hd
  rw [htx, hrx]
  refine ⟨?_, ?_, hdtx, hdrx⟩
  . simpa [optionOf, hname] using List.mem_map_of_mem (f := optionOf packed.sndWnd) hmem
  . simpa [optionOf, hname] using List.mem_map_of_mem (f := optionOf packed.rcvWnd) hmem

end RawTCPInfo

end Tcpinfo.Linux
