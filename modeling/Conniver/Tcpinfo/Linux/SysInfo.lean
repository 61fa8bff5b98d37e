import Conniver.Tcpinfo.Info
import Conniver.Go.Fmt
import Mathlib.Data.List.Nodup

/-!
`SysInfo` of `tcpinfo_linux.go`, the decoded form of `RawTCPInfo` with the congestion-control
details attached, and its `ToMap`, `Warnings` and `ToInfo`. A nullable field enters the map
only when it is valid, under a key of its own.
-/

namespace Tcpinfo.Linux

open Nullable

structure SysInfo where
  state : UInt8 := 0
  stateName : String := ""
  caState : UInt8 := 0
  retransmits : UInt8 := 0
  probes : UInt8 := 0
  backoff : UInt8 := 0
  txOptions : List TCPOption := []
  rxOptions : List TCPOption := []
  txWindowScale : UInt8 := 0
  rxWindowScale : UInt8 := 0
  deliveryRateAppLimited : Nullable Bool := null
  fastOpenClientFail : Nullable UInt8 := null
  rto : Int64 := 0
  ato : Int64 := 0
  txMSS : UInt32 := 0
  rxMSS : UInt32 := 0
  unAcked : UInt32 := 0
  sacked : UInt32 := 0
  lost : UInt32 := 0
  retrans : UInt32 := 0
  fackets : UInt32 := 0
  lastTxAt : Int64 := 0
  lastTxAckAt : Int64 := 0
  lastRxAt : Int64 := 0
  lastRxAckAt : Int64 := 0
  pmtu : UInt32 := 0
  rxSSThreshold : UInt32 := 0
  rtt : Int64 := 0
  rttVar : Int64 := 0
  txSSThreshold : UInt32 := 0
  txCWindow : UInt32 := 0
  advMSS : UInt32 := 0
  reordering : UInt32 := 0
  rxRTT : Int64 := 0
  rxSpace : UInt32 := 0
  totalRetrans : UInt32 := 0
  pacingRate : Nullable UInt64 := null
  maxPacingRate : Nullable UInt64 := null
  bytesAcked : Nullable UInt64 := null
  bytesReceived : Nullable UInt64 := null
  segsOut : Nullable UInt32 := null
  segsIn : Nullable UInt32 := null
  notSentBytes : Nullable UInt32 := null
  minRTT : Nullable Int64 := null
  dataSegsIn : Nullable UInt32 := null
  dataSegsOut : Nullable UInt32 := null
  deliveryRate : Nullable UInt64 := null
  busyTime : Nullable UInt64 := null
  rxWindowLimited : Nullable UInt64 := null
  txBufferLimited : Nullable UInt64 := null
  delivered : Nullable UInt32 := null
  deliveredCE : Nullable UInt32 := null
  bytesSent : Nullable UInt64 := null
  bytesRetrans : Nullable UInt64 := null
  dsackDups : Nullable UInt32 := null
  reordSeen : Nullable UInt32 := null
  rxOutOfOrder : Nullable UInt32 := null
  txWindow : Nullable UInt32 := null
  rxWindow : Nullable UInt32 := null
  rehash : Nullable UInt32 := null
  totalRTO : Nullable UInt16 := null
  totalRTORecoveries : Nullable UInt16 := null
  totalRTOTime : Nullable UInt32 := null
  ccAlgorithm : String := ""
  ccVegasEnabled : Nullable UInt32 := null
  ccVegasRTTCnt : Nullable UInt32 := null
  ccVegasRTT : Nullable Int64 := null
  ccVegasRTTMin : Nullable Int64 := null
  ccBBRBwLo : Nullable UInt32 := null
  ccBBRBwHi : Nullable UInt32 := null
  ccBBRMinRTT : Nullable Int64 := null
  ccBBRPacingGain : Nullable UInt32 := null
  ccBBRCWindowGain : Nullable UInt32 := null
  ccDCTCPEnabled : Nullable Bool := null
  ccDCTCPCEState : Nullable UInt16 := null
  ccDCTCPAlpha : Nullable UInt32 := null
  ccDCTCPABECN : Nullable UInt32 := null
  ccDCTCPABTOT : Nullable UInt32 := null

namespace SysInfo

-- `if s.X.Valid { r[key] = s.X.Value }`
def nullableEntry {α : Type} (key : String) (box : α → Value) (x : Nullable α)
    : Bool × String × Value :=
  (x.valid, key, box x.value)

def baseEntries (s : SysInfo) : List (String × Value) :=
  [("state", .string s.stateName),
    ("caState", .uint8 s.caState),
    ("retransmits", .uint8 s.retransmits),
    ("probes", .uint8 s.probes),
    ("backoff", .uint8 s.backoff),
    ("txOptions", .options s.txOptions),
    ("rxOptions", .options s.rxOptions),
    ("txWindowScale", .uint8 s.txWindowScale),
    ("rxWindowScale", .uint8 s.rxWindowScale),
    ("rto", .duration s.rto),
    ("ato", .duration s.ato),
    ("txMSS", .uint32 s.txMSS),
    ("rxMSS", .uint32 s.rxMSS),
    ("unAcked", .uint32 s.unAcked),
    ("sacked", .uint32 s.sacked),
    ("lost", .uint32 s.lost),
    ("retrans", .uint32 s.retrans),
    ("fackets", .uint32 s.fackets),
    ("lastTxAt", .duration s.lastTxAt),
    ("lastTxAckAt", .duration s.lastTxAckAt),
    ("lastRxAt", .duration s.lastRxAt),
    ("lastRxAckAt", .duration s.lastRxAckAt),
    ("pmtu", .uint32 s.pmtu),
    ("rxSSThreshold", .uint32 s.rxSSThreshold),
    ("rtt", .duration s.rtt),
    ("rttVar", .duration s.rttVar),
    ("txSSThreshold", .uint32 s.txSSThreshold),
    ("txCWindow", .uint32 s.txCWindow),
    ("advMSS", .uint32 s.advMSS),
    ("reordering", .uint32 s.reordering),
    ("rxRTT", .duration s.rxRTT),
    ("rxSpace", .uint32 s.rxSpace),
    ("totalRetrans", .uint32 s.totalRetrans),
    ("ccAlgorithm", .string s.ccAlgorithm)]

-- the entries of the tcp_info members that older kernels lack
def tcpEntries (s : SysInfo) : List (Bool × String × Value) :=
  [nullableEntry "deliveryRateAppLimited" .bool s.deliveryRateAppLimited,
    nullableEntry "fastOpenClientFail" .uint8 s.fastOpenClientFail,
    nullableEntry "pacingRate" .uint64 s.pacingRate,
    nullableEntry "maxPacingRate" .uint64 s.maxPacingRate,
    nullableEntry "bytesAcked" .uint64 s.bytesAcked,
    nullableEntry "bytesReceived" .uint64 s.bytesReceived,
    nullableEntry "segsOut" .uint32 s.segsOut,
    nullableEntry "segsIn" .uint32 s.segsIn,
    nullableEntry "notSentBytes" .uint32 s.notSentBytes,
    nullableEntry "minRTT" .duration s.minRTT,
    nullableEntry "dataSegsIn" .uint32 s.dataSegsIn,
    nullableEntry "dataSegsOut" .uint32 s.dataSegsOut,
    nullableEntry "deliveryRate" .uint64 s.deliveryRate,
    nullableEntry "busyTime" .uint64 s.busyTime,
    nullableEntry "rxWindowLimited" .uint64 s.rxWindowLimited,
    nullableEntry "txBufferLimited" .uint64 s.txBufferLimited,
    nullableEntry "delivered" .uint32 s.delivered,
    nullableEntry "deliveredCE" .uint32 s.deliveredCE,
    nullableEntry "bytesSent" .uint64 s.bytesSent,
    nullableEntry "bytesRetrans" .uint64 s.bytesRetrans,
    nullableEntry "dsackDups" .uint32 s.dsackDups,
    nullableEntry "reordSeen" .uint32 s.reordSeen,
    nullableEntry "rxOutOfOrder" .uint32 s.rxOutOfOrder,
    nullableEntry "txWindow" .uint32 s.txWindow,
    nullableEntry "rxWindow" .uint32 s.rxWindow,
    nullableEntry "rehash" .uint32 s.rehash,
    nullableEntry "totalRTO" .uint16 s.totalRTO,
    nullableEntry "totalRTORecoveries" .uint16 s.totalRTORecoveries,
    nullableEntry "totalRTOTime" .uint32 s.totalRTOTime]

def ccEntries (s : SysInfo) : List (Bool × String × Value) :=
  [nullableEntry "ccVegasEnabled" .uint32 s.ccVegasEnabled,
    nullableEntry "ccVegasRTTCnt" .uint32 s.ccVegasRTTCnt,
    nullableEntry "ccVegasRTT" .duration s.ccVegasRTT,
    nullableEntry "ccVegasRTTMin" .duration s.ccVegasRTTMin,
    nullableEntry "ccBBRBwLo" .uint32 s.ccBBRBwLo,
    nullableEntry "ccBBRBwHi" .uint32 s.ccBBRBwHi,
    nullableEntry "ccBBRMinRTT" .duration s.ccBBRMinRTT,
    nullableEntry "ccBBRPacingGain" .uint32 s.ccBBRPacingGain,
    nullableEntry "ccBBRCWindowGain" .uint32 s.ccBBRCWindowGain,
    nullableEntry "ccDCTCPEnabled" .bool s.ccDCTCPEnabled,
    nullableEntry "ccDCTCPCEState" .uint16 s.ccDCTCPCEState,
    nullableEntry "ccDCTCPAlpha" .uint32 s.ccDCTCPAlpha,
    nullableEntry "ccDCTCPABECN" .uint32 s.ccDCTCPABECN,
    nullableEntry "ccDCTCPABTOT" .uint32 s.ccDCTCPABTOT]

def toMap (s : SysInfo) : Go.Map Value :=
  (s.tcpEntries ++ s.ccEntries).foldl (fun m e => m.insertIf e.1 e.2.1 e.2.2) ⟨s.baseEntries⟩

-- `if c { warns = append(warns, label+strconv.FormatUint(n, 10)) }`
def warnIf (c : Bool) (label : String) (n : UInt64) : List String :=
  if c then [label ++ Go.strconv.formatUint n] else []

def warnings (s : SysInfo) : List String :=
  warnIf (s.bytesRetrans.valid && s.bytesRetrans.value > 0) "retransBytes=" s.bytesRetrans.value ++
    warnIf (s.totalRetrans > 0) "retransTotal=" s.totalRetrans.toUInt64 ++
    warnIf (s.backoff > 0) "backoff=" s.backoff.toUInt64 ++
    warnIf (s.rxOutOfOrder.valid && s.rxOutOfOrder.value > 0) "outOfOrderBytes="
      s.rxOutOfOrder.value.toUInt64 ++
    warnIf (s.txBufferLimited.valid && s.txBufferLimited.value > 0) "txSendBufferLimited="
      s.txBufferLimited.value ++
    warnIf (s.rxWindowLimited.valid && s.rxWindowLimited.value > 0) "rxWindowLimited="
      s.rxWindowLimited.value

def toInfo (s : SysInfo) : Info SysInfo :=
  { state := s.stateName
    txOptions := s.txOptions
    rxOptions := s.rxOptions
    txMSS := s.txMSS.toUInt64
    rxMSS := s.rxMSS.toUInt64
    rtt := s.rtt
    rttVar := s.rttVar
    rto := s.rto
    ato := s.ato
    lastTxAt := s.lastTxAt
    lastRxAt := s.lastRxAt
    lastTxAckAt := s.lastTxAckAt
    lastRxAckAt := s.lastRxAckAt
    rxWindow := s.rxSpace.toUInt64
    txSSThreshold := s.txSSThreshold.toUInt64
    rxSSThreshold := s.rxSSThreshold.toUInt64
    txWindowSegs := s.txCWindow.toUInt64
    retransmits := s.totalRetrans.toUInt64
    sys := s }

end SysInfo

-- the nullable fields that come from `struct tcp_info`, in declaration order
inductive NullableField where
  | deliveryRateAppLimited | fastOpenClientFail | pacingRate | maxPacingRate | bytesAcked
  | bytesReceived | segsOut | segsIn | notSentBytes | minRTT | dataSegsIn | dataSegsOut
  | deliveryRate | busyTime | rxWindowLimited | txBufferLimited | delivered | deliveredCE
  | bytesSent | bytesRetrans | dsackDups | reordSeen | rxOutOfOrder | txWindow | rxWindow
  | rehash | totalRTO | totalRTORecoveries | totalRTOTime
  deriving DecidableEq, Repr

namespace NullableField

def all : List NullableField :=
  [.deliveryRateAppLimited, .fastOpenClientFail, .pacingRate, .maxPacingRate, .bytesAcked,
    .bytesReceived, .segsOut, .segsIn, .notSentBytes, .minRTT, .dataSegsIn, .dataSegsOut,
    .deliveryRate, .busyTime, .rxWindowLimited, .txBufferLimited, .delivered, .deliveredCE,
    .bytesSent, .bytesRetrans, .dsackDups, .reordSeen, .rxOutOfOrder, .txWindow, .rxWindow,
    .rehash, .totalRTO, .totalRTORecoveries, .totalRTOTime]

theorem mem_all (F : NullableField) : F ∈ all := by
  cases F <;> decide

-- the key `ToMap` stores the field under
def key : NullableField → String
  | .deliveryRateAppLimited => "deliveryRateAppLimited"
  | .fastOpenClientFail => "fastOpenClientFail"
  | .pacingRate => "pacingRate"
  | .maxPacingRate => "maxPacingRate"
  | .bytesAcked => "bytesAcked"
  | .bytesReceived => "bytesReceived"
  | .segsOut => "segsOut"
  | .segsIn => "segsIn"
  | .notSentBytes => "notSentBytes"
  | .minRTT => "minRTT"
  | .dataSegsIn => "dataSegsIn"
  | .dataSegsOut => "dataSegsOut"
  | .deliveryRate => "deliveryRate"
  | .busyTime => "busyTime"
  | .rxWindowLimited => "rxWindowLimited"
  | .txBufferLimited => "txBufferLimited"
  | .delivered => "delivered"
  | .deliveredCE => "deliveredCE"
  | .bytesSent => "bytesSent"
  | .bytesRetrans => "bytesRetrans"
  | .dsackDups => "dsackDups"
  | .reordSeen => "reordSeen"
  | .rxOutOfOrder => "rxOutOfOrder"
  | .txWindow => "txWindow"
  | .rxWindow => "rxWindow"
  | .rehash => "rehash"
  | .totalRTO => "totalRTO"
  | .totalRTORecoveries => "totalRTORecoveries"
  | .totalRTOTime => "totalRTOTime"

def valid (s : SysInfo) : NullableField → Bool
  | .deliveryRateAppLimited => s.deliveryRateAppLimited.valid
  | .fastOpenClientFail => s.fastOpenClientFail.valid
  | .pacingRate => s.pacingRate.valid
  | .maxPacingRate => s.maxPacingRate.valid
  | .bytesAcked => s.bytesAcked.valid
  | .bytesReceived => s.bytesReceived.valid
  | .segsOut => s.segsOut.valid
  | .segsIn => s.segsIn.valid
  | .notSentBytes => s.notSentBytes.valid
  | .minRTT => s.minRTT.valid
  | .dataSegsIn => s.dataSegsIn.valid
  | .dataSegsOut => s.dataSegsOut.valid
  | .deliveryRate => s.deliveryRate.valid
  | .busyTime => s.busyTime.valid
  | .rxWindowLimited => s.rxWindowLimited.valid
  | .txBufferLimited => s.txBufferLimited.valid
  | .delivered => s.delivered.valid
  | .deliveredCE => s.deliveredCE.valid
  | .bytesSent => s.bytesSent.valid
  | .bytesRetrans => s.bytesRetrans.valid
  | .dsackDups => s.dsackDups.valid
  | .reordSeen => s.reordSeen.valid
  | .rxOutOfOrder => s.rxOutOfOrder.valid
  | .txWindow => s.txWindow.valid
  | .rxWindow => s.rxWindow.valid
  | .rehash => s.rehash.valid
  | .totalRTO => s.totalRTO.valid
  | .totalRTORecoveries => s.totalRTORecoveries.valid
  | .totalRTOTime => s.totalRTOTime.valid

def value (s : SysInfo) : NullableField → Value
  | .deliveryRateAppLimited => .bool s.deliveryRateAppLimited.value
  | .fastOpenClientFail => .uint8 s.fastOpenClientFail.value
  | .pacingRate => .uint64 s.pacingRate.value
  | .maxPacingRate => .uint64 s.maxPacingRate.value
  | .bytesAcked => .uint64 s.bytesAcked.value
  | .bytesReceived => .uint64 s.bytesReceived.value
  | .segsOut => .uint32 s.segsOut.value
  | .segsIn => .uint32 s.segsIn.value
  | .notSentBytes => .uint32 s.notSentBytes.value
  | .minRTT => .duration s.minRTT.value
  | .dataSegsIn => .uint32 s.dataSegsIn.value
  | .dataSegsOut => .uint32 s.dataSegsOut.value
  | .deliveryRate => .uint64 s.deliveryRate.value
  | .busyTime => .uint64 s.busyTime.value
  | .rxWindowLimited => .uint64 s.rxWindowLimited.value
  | .txBufferLimited => .uint64 s.txBufferLimited.value
  | .delivered => .uint32 s.delivered.value
  | .deliveredCE => .uint32 s.deliveredCE.value
  | .bytesSent => .uint64 s.bytesSent.value
  | .bytesRetrans => .uint64 s.bytesRetrans.value
  | .dsackDups => .uint32 s.dsackDups.value
  | .reordSeen => .uint32 s.reordSeen.value
  | .rxOutOfOrder => .uint32 s.rxOutOfOrder.value
  | .txWindow => .uint32 s.txWindow.value
  | .rxWindow => .uint32 s.rxWindow.value
  | .rehash => .uint32 s.rehash.value
  | .totalRTO => .uint16 s.totalRTO.value
  | .totalRTORecoveries => .uint16 s.totalRTORecoveries.value
  | .totalRTOTime => .uint32 s.totalRTOTime.value

end NullableField

namespace SysInfo

theorem tcpEntries_eq_map (s : SysInfo)
    : s.tcpEntries = NullableField.all.map (fun F => (F.valid s, F.key, F.value s)) :=
  rfl

theorem keys_nodup (s : SysInfo)
    : (s.baseEntries.map Prod.fst ++ (s.tcpEntries ++ s.ccEntries).map (·.2.1)).Nodup := by
  -- the keys are literals: they are those of the zero value
  have hkeys : s.baseEntries.map Prod.fst ++ (s.tcpEntries ++ s.ccEntries).map (·.2.1) =
      ({} : SysInfo).baseEntries.map Prod.fst ++
        (({} : SysInfo).tcpEntries ++ ({} : SysInfo).ccEntries).map (·.2.1) :=
    rfl
  rw [hkeys]
  decide

theorem mem_keys_toMap (s : SysInfo) (k : String)
    : k ∈ s.toMap.keys ↔
        (∃ e ∈ s.tcpEntries ++ s.ccEntries, e.1 = true ∧ e.2.1 = k) ∨
          k ∈ s.baseEntries.map Prod.fst := by
  unfold toMap
  rw [Go.Map.mem_keys_foldl_insertIf]
  rfl

theorem mem_keys_toMap_iff_valid (s : SysInfo) (F : NullableField)
    : F.key ∈ s.toMap.keys ↔ F.valid s = true := by
  have hnodup := keys_nodup s
  rw [List.nodup_append] at hnodup
  obtain ⟨-, hentries, hdisjoint⟩ := hnodup
  have hF : (F.valid s, F.key, F.value s) ∈ s.tcpEntries ++ s.ccEntries := by
    rw [List.mem_append, tcpEntries_eq_map]
    exact Or.inl (List.mem_map.2 ⟨F, NullableField.mem_all F, rfl⟩)
  rw [mem_keys_toMap]
  constructor
  . rintro (⟨e, he, hv, hk⟩ | hbase)
    . -- the only entry under the field's key is the field's own
      have heq := List.inj_on_of_nodup_map hentries he hF hk
      rw [heq] at hv
      exact hv
    . exact absurd rfl (hdisjoint _ hbase _ (List.mem_map.2 ⟨_, hF, rfl⟩))
  . intro hv
    exact Or.inl ⟨_, hF, hv, rfl⟩

end SysInfo

end Tcpinfo.Linux
