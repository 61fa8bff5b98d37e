import Conniver.Go.Basic
import Conniver.Lib.Affix
import Conniver.Lib.Decimal
import Mathlib.Data.Set.Operations

/-!
The platform-independent part of `pkg/tcpinfo` (`tcpinfo.go`): the options a connection
negotiated, the nullable fields of the decoders, and `Info`, the OS-normalised fields with
the platform's own `SysInfo` attached. The `ToMap` functions build Go maps of `any`, whose
values are `Value`s here. Every `Info` the program builds comes from a `ToInfo`, which sets
`Sys`, so `sys` is not optional.
-/

namespace Tcpinfo

-- Go's `tcpinfo.Option`; the name `Option` is Lean's own.
structure TCPOption where
  kind : String
  value : UInt64
  deriving DecidableEq, Repr

namespace TCPOption

def hex2 (v : UInt64) : String :=
  let ds := Nat.toDigits 16 v.toNat
  String.ofList (if ds.length < 2 then '0' :: ds else ds)

-- `fmt.Sprintf("%s:%.2x", o.Kind, o.Value)`, or the kind alone for a zero value
def string (o : TCPOption) : String :=
  if o.value = 0 then o.kind else o.kind ++ ":" ++ hex2 o.value

-- the digits `%.2x` prints, padded to two, read back in base 16
theorem valueIn_hex2 (v : UInt64) : Decimal.valueIn 16 (hex2 v).toList = v.toNat := by
  unfold hex2
  rw [String.toList_ofList]
  split
  . rw [Decimal.valueIn_zero_cons, Decimal.valueIn_toDigits (by decide) (by decide)]
  . exact Decimal.valueIn_toDigits (by decide) (by decide) _

theorem hex2_injective : Function.Injective hex2 := by
  intro a b h
  have hval := congrArg (fun s => Decimal.valueIn 16 s.toList) h
  simp only [valueIn_hex2] at hval
  exact UInt64.toNat_inj.1 hval

theorem mem_toList_string_of_ne_zero {o : TCPOption} (h : o.value ≠ 0) : ':' ∈ o.string.toList := by
  rw [string, if_neg h, String.toList_append, String.toList_append]
  simp

theorem string_injOn : Set.InjOn string {o | ':' ∉ o.kind.toList} := by
  intro o ho o' ho' h
  by_cases hv : o.value = 0 <;> by_cases hv' : o'.value = 0
  . -- both print their kind alone
    rw [string, string, if_pos hv, if_pos hv'] at h
    cases o
    cases o'
    simp_all
  . -- the kind of `o` would hold the ':' that `o'` prints
    have hmem := mem_toList_string_of_ne_zero hv'
    rw [← h, string, if_pos hv] at hmem
    exact absurd hmem ho
  . have hmem := mem_toList_string_of_ne_zero hv
    rw [h, string, if_pos hv'] at hmem
    exact absurd hmem ho'
  . rw [string, string, if_neg hv, if_neg hv'] at h
    have hl := congrArg String.toList h
    simp only [String.toList_append, List.append_assoc] at hl
    obtain ⟨hk, hx⟩ := Affix.eq_of_append_cons_eq_left ho ho' hl
    have hvalue : o.value = o'.value := hex2_injective (String.toList_inj.1 hx)
    cases o
    cases o'
    simp_all [String.toList_inj]

end TCPOption

/--
The `NullableBool`, `NullableUint8`, ..., `NullableDuration` family: a value and whether the
kernel provided it.
-/
structure Nullable (α : Type) where
  valid : Bool
  value : α
  deriving DecidableEq, Repr

namespace Nullable

variable {α : Type} [Inhabited α]

-- `NullableX{Valid: false}`
def null : Nullable α :=
  ⟨false, default⟩

instance : Inhabited (Nullable α) :=
  ⟨null⟩

-- `x = NullableX{Valid: false}; if flag { x.Valid = true; x.Value = v }`
def gated (flag : Bool) (v : α) : Nullable α :=
  if flag then ⟨true, v⟩ else null

@[simp]
theorem valid_null : (null : Nullable α).valid = false := rfl

@[simp]
theorem valid_gated (flag : Bool) (v : α) : (gated flag v).valid = flag := by
  cases flag <;> rfl

theorem value_gated_of_valid {flag : Bool} {v : α} (h : (gated flag v).valid = true)
    : (gated flag v).value = v := by
  cases flag
  . simp at h
  . rfl

end Nullable

/--
The values the `ToMap` functions store in their `map[string]any`.
-/
inductive Value where
  | bool (b : Bool)
  | uint8 (x : UInt8)
  | uint16 (x : UInt16)
  | uint32 (x : UInt32)
  | uint64 (x : UInt64)
  | int (x : Int64)
  | int64 (x : Int64)
  | duration (d : Int64)
  | string (s : String)
  | options (l : List TCPOption)
  | strings (l : List String)
  | map (m : Go.Map Value)

structure Info (Sys : Type) where
  state : String := ""
  txOptions : List TCPOption := []
  rxOptions : List TCPOption := []
  txMSS : UInt64 := 0
  rxMSS : UInt64 := 0
  rtt : Int64 := 0
  rttVar : Int64 := 0
  rto : Int64 := 0
  ato : Int64 := 0
  lastTxAt : Int64 := 0
  lastRxAt : Int64 := 0
  lastTxAckAt : Int64 := 0
  lastRxAckAt : Int64 := 0
  rxWindow : UInt64 := 0
  txSSThreshold : UInt64 := 0
  rxSSThreshold : UInt64 := 0
  txWindowBytes : UInt64 := 0
  txWindowSegs : UInt64 := 0
  retransmits : UInt64 := 0
  sys : Sys

-- `(*Info).ToMap`; `sysToMap` is the platform's `(*SysInfo).ToMap`
def Info.toMap {Sys : Type} (sysToMap : Sys → Go.Map Value) (i : Info Sys) : Go.Map Value :=
  (⟨[("state", .string i.state),
      ("txOptions", .options i.txOptions),
      ("rxOptions", .options i.rxOptions),
      ("txMSS", .uint64 i.txMSS),
      ("rxMSS", .uint64 i.rxMSS),
      ("rtt", .duration i.rtt),
      ("rttVar", .duration i.rttVar),
      ("rto", .duration i.rto),
      ("ato", .duration i.ato),
      ("lastTxAt", .duration i.lastTxAt),
      ("lastRxAt", .duration i.lastRxAt),
      ("lastTxAckAt", .duration i.lastTxAckAt),
      ("lastRxAckAt", .duration i.lastRxAckAt),
      ("rxWindow", .uint64 i.rxWindow),
      ("txSSThreshold", .uint64 i.txSSThreshold),
      ("rxSSThreshold", .uint64 i.rxSSThreshold),
      ("txCWindowBytes", .uint64 i.txWindowBytes),
      ("txCWindowSegs", .uint64 i.txWindowSegs),
      ("retransmits", .uint64 i.retransmits)]⟩ : Go.Map Value).insert
    "sysInfo" (.map (sysToMap i.sys))

end Tcpinfo
