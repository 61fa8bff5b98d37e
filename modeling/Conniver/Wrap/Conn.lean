import Conniver.Tcpinfo.Info
import Conniver.Go.Fmt

/-!
The connection wrapper of package `conniver` (`wrap.go`). A `Conn` records when the
connection it wraps was opened and closed, when data first and last moved each way, the
byte counts and errors of its reads and writes, and the TCP information gathered when it was
opened and when it is closed.

The wrapped `net.Conn` enters through what the code asks of it: whether it is a
`*net.TCPConn`, its addresses, and the results of its calls, which each call of the wrapper
brings along with the clock value it reads. The platform's `tcpinfo` package is a parameter:
`toInfo` is its `(*SysInfo).ToInfo`, and a gathering is given the results of
`SyscallConn`, `Control` and `GetTCPInfo`. The report callback is observed, not run: each
invocation `w.reportStats(w, state)` is a `Report` of the state and of the `Conn` it is
handed. The mutex only orders the calls, which are taken one after another.
-/

namespace Conniver

open Tcpinfo

def opened : Int64 := 0

def closed : Int64 := 1

-- what the wrapper asks of the `net.Conn` it wraps
structure NetConn where
  -- `w.Conn.(*net.TCPConn)` succeeds
  isTCPConn : Bool
  localAddr : String
  remoteAddr : String
  deriving DecidableEq, Repr

structure Conn (Sys : Type) where
  conn : NetConn
  -- `reportStats != nil`
  hasReportStats : Bool
  openedAt : Int64 := 0
  closedAt : Int64 := 0
  firstRxAt : Int64 := 0
  firstTxAt : Int64 := 0
  lastRxAt : Int64 := 0
  lastTxAt : Int64 := 0
  txBytes : Int64 := 0
  rxBytes : Int64 := 0
  rxErr : Option Go.Error := none
  txErr : Option Go.Error := none
  infoErr : Option Go.Error := none
  reconnects : Int64 := 0
  openedInfo : Option (Info Sys) := none
  closedInfo : Option (Info Sys) := none
  supportsTCPInfo : Bool

structure Report (Sys : Type) where
  state : Int64
  conn : Conn Sys

-- the results of the calls one gathering makes: `tcpConn.SyscallConn()`, `rawConn.Control`,
-- and the platform's `tcpinfo.GetTCPInfo(fd)` run inside the control function
structure GatherOutcome (Sys : Type) where
  syscallConnErr : Option Go.Error := none
  controlErr : Option Go.Error := none
  getTCPInfo : Option Sys × Option Go.Error

variable {Sys : Type} (toInfo : Sys → Info Sys)

namespace Conn

-- the part of `gatherAndReport` after the report is deferred
def gather (state : Int64) (o : GatherOutcome Sys) (w : Conn Sys) : Conn Sys :=
  if !w.supportsTCPInfo || w.infoErr.isSome then w
  else if !w.conn.isTCPConn then w
  else if o.syscallConnErr.isSome then w
  else
    match o.controlErr, o.getTCPInfo with
    | some err, _ => { w with infoErr := some err }
    | none, (_, some tcpErr) => { w with infoErr := some tcpErr }
    | none, (none, none) => w
    | none, (some sysInfo, none) =>
      if state = opened then { w with openedInfo := some (toInfo sysInfo) }
      else { w with closedInfo := some (toInfo sysInfo) }

def gatherAndReport (state : Int64) (o : GatherOutcome Sys) (w : Conn Sys)
    : Conn Sys × List (Report Sys) :=
  if !w.hasReportStats then (w, [])
  else if state ≠ opened ∧ state ≠ closed then (w, [])
  else if state = opened ∧ w.openedInfo.isSome then (w, [])
  else if state = closed ∧ w.closedInfo.isSome then (w, [])
  else
    -- the deferred report runs after the deferred unlock, so it sees what was gathered
    let w := w.gather toInfo state o
    (w, [⟨state, w⟩])

end Conn

-- `WrapConnWithContext` at clock value `now`; `supported` is the platform's
-- `tcpinfo.Supported()`, and the context is stored and never read
def wrapConnWithContext (ncon : NetConn) (hasReportStats : Bool) (now : Int64) (supported : Bool)
    (o : GatherOutcome Sys) : Conn Sys × List (Report Sys) :=
  let w : Conn Sys :=
    { conn := ncon, hasReportStats := hasReportStats, openedAt := now,
      supportsTCPInfo := supported }
  w.gatherAndReport toInfo opened o

def wrapConn (ncon : NetConn) (hasReportStats : Bool) (now : Int64) (supported : Bool)
    (o : GatherOutcome Sys) : Conn Sys × List (Report Sys) :=
  wrapConnWithContext toInfo ncon hasReportStats now supported o

namespace Conn

def setReconnects (reconnects : Int64) (w : Conn Sys) : Conn Sys :=
  { w with reconnects := reconnects }

-- `Close()` at clock value `now`; what the wrapped connection's `Close` returns is handed back
-- and changes nothing here
def close (now : Int64) (o : GatherOutcome Sys) (w : Conn Sys) : Conn Sys × List (Report Sys) :=
  { w with closedAt := now }.gatherAndReport toInfo closed o

-- `Read(b)` after the wrapped connection returned `(n, err)`, at clock value `now`
def read (n : Int64) (err : Option Go.Error) (now : Int64) (w : Conn Sys) : Conn Sys :=
  let w :=
    if err = none ∧ n > 0 then
      if w.firstRxAt = 0 then { w with firstRxAt := now, lastRxAt := now }
      else { w with lastRxAt := now }
    else w
  let w := { w with rxBytes := w.rxBytes + n }
  match err with
  | some e => if e.asNetError = some false then { w with rxErr := some e } else w
  | none => w

def write (n : Int64) (err : Option Go.Error) (now : Int64) (w : Conn Sys) : Conn Sys :=
  let w :=
    if err = none ∧ n > 0 then
      if w.firstTxAt = 0 then { w with firstTxAt := now, lastTxAt := now }
      else { w with lastTxAt := now }
    else w
  let w := { w with txBytes := w.txBytes + n }
  let w := { w with txErr := err }
  match err with
  | some e => if e.asNetError = some false then { w with txErr := some e } else w
  | none => w

-- `warnings()`; `sysWarnings` is the platform's `(*SysInfo).Warnings`, and
-- `strconv.FormatInt(x, 10)` prints as `%d` does
def warnings (sysWarnings : Sys → List String) (w : Conn Sys) : List String :=
  let warns := if w.reconnects > 0 then ["reconnects=" ++ Go.fmt.formatInt w.reconnects] else []
  [w.openedInfo, w.closedInfo].foldl
    (fun warns info =>
      match info with
      | none => warns
      | some info =>
        let warns :=
          if info.retransmits > 0 then
            warns ++ ["retransmits=" ++ Go.fmt.formatInt info.retransmits.toInt64]
          else warns
        warns ++ sysWarnings info.sys)
    warns

-- `ToMap()`; `sysToMap` is the platform's `(*SysInfo).ToMap`
def toMap (sysWarnings : Sys → List String) (sysToMap : Sys → Go.Map Value) (w : Conn Sys)
    : Go.Map Value :=
  let fset : Go.Map Value :=
    ⟨[("openedAt", .int64 w.openedAt),
      ("closedAt", .int64 w.closedAt),
      ("firstRxAt", .int64 w.firstRxAt),
      ("firstTxAt", .int64 w.firstTxAt),
      ("lastRxAt", .int64 w.lastRxAt),
      ("lastTxAt", .int64 w.lastTxAt),
      ("txBytes", .int64 w.txBytes),
      ("rxBytes", .int64 w.rxBytes),
      ("reconnects", .int w.reconnects),
      ("localAddr", .string w.conn.localAddr),
      ("remoteAddr", .string w.conn.remoteAddr),
      ("warnings", .strings (w.warnings sysWarnings))]⟩
  -- the source assigns `rxErr` twice
  let fset := fset.insertSome "rxErr" (fun err => .string err.error) w.rxErr
  let fset := fset.insertSome "rxErr" (fun err => .string err.error) w.rxErr
  let fset := fset.insertSome "txErr" (fun err => .string err.error) w.txErr
  let fset := fset.insertSome "infoErr" (fun err => .string err.error) w.infoErr
  let fset := fset.insertSome "openedInfo" (fun info => .map (info.toMap sysToMap)) w.openedInfo
  fset.insertSome "closedInfo" (fun info => .map (info.toMap sysToMap)) w.closedInfo

end Conn

-- the calls a caller makes on a wrapped connection, each with the results it gets from the
-- wrapped connection, the clock and the TCP information queries
inductive Call (Sys : Type) where
  | read (n : Int64) (err : Option Go.Error) (now : Int64)
  | write (n : Int64) (err : Option Go.Error) (now : Int64)
  | setReconnects (reconnects : Int64)
  | warnings
  | toMap
  | close (now : Int64) (o : GatherOutcome Sys)

def Call.isClose : Call Sys → Bool
  | .close _ _ => true
  | _ => false

-- one call, with the reports it makes; `Warnings` and `ToMap` only read the state
def step (w : Conn Sys) : Call Sys → Conn Sys × List (Report Sys)
  | .read n err now => (w.read n err now, [])
  | .write n err now => (w.write n err now, [])
  | .setReconnects k => (w.setReconnects k, [])
  | .warnings => (w, [])
  | .toMap => (w, [])
  | .close now o => w.close toInfo now o

namespace Conn

variable {toInfo} {state : Int64} {o : GatherOutcome Sys} {w : Conn Sys}

theorem gather_cases (toInfo : Sys → Info Sys) (state : Int64) (o : GatherOutcome Sys)
    (w : Conn Sys)
    : w.gather toInfo state o = w ∨
      (w.infoErr = none ∧ ∃ err, w.gather toInfo state o = { w with infoErr := some err }) ∨
      (w.infoErr = none ∧ state = opened ∧
        ∃ s, w.gather toInfo state o = { w with openedInfo := some (toInfo s) }) ∨
      (w.infoErr = none ∧ state ≠ opened ∧
        ∃ s, w.gather toInfo state o = { w with closedInfo := some (toInfo s) }) := by
  unfold gather
  by_cases hskip : (!w.supportsTCPInfo || w.infoErr.isSome) = true
  . rw [if_pos hskip]
    exact Or.inl rfl
  rw [if_neg hskip]
  have herr : w.infoErr = none := by
    cases h : w.infoErr <;> simp_all
  split
  . exact Or.inl rfl
  split
  . exact Or.inl rfl
  split
  . exact Or.inr (Or.inl ⟨herr, _, rfl⟩)
  . exact Or.inr (Or.inl ⟨herr, _, rfl⟩)
  . exact Or.inl rfl
  . split
    . exact Or.inr (Or.inr (Or.inl ⟨herr, ‹_›, _, rfl⟩))
    . exact Or.inr (Or.inr (Or.inr ⟨herr, ‹_›, _, rfl⟩))

theorem gather_of_infoErr (h : w.infoErr.isSome = true) : w.gather toInfo state o = w := by
  unfold gather
  rw [if_pos (by simp [h])]

theorem gatherAndReport_cases (toInfo : Sys → Info Sys) (state : Int64)
    (o : GatherOutcome Sys) (w : Conn Sys)
    : w.gatherAndReport toInfo state o = (w, []) ∨
      (w.hasReportStats = true ∧
        (state = opened ∧ w.openedInfo = none ∨ state = closed ∧ w.closedInfo = none) ∧
        w.gatherAndReport toInfo state o =
          (w.gather toInfo state o, [⟨state, w.gather toInfo state o⟩])) := by
  unfold gatherAndReport
  split
  . exact Or.inl rfl
  split
  . exact Or.inl rfl
  split
  . exact Or.inl rfl
  split
  . exact Or.inl rfl
  rename_i hcb hstate hop hcl
  refine Or.inr ⟨by simpa using hcb, ?_, rfl⟩
  have hopened : opened ≠ closed := by decide
  by_cases hs : state = opened
  . subst hs
    exact Or.inl ⟨rfl, by simpa using hop⟩
  . have hc : state = closed := by
      by_contra hc
      exact hstate ⟨hs, hc⟩
    subst hc
    exact Or.inr ⟨rfl, by simpa using hcl⟩

theorem gather_frame (toInfo : Sys → Info Sys) (state : Int64) (o : GatherOutcome Sys)
    (w : Conn Sys)
    : ∃ infoErr openedInfo closedInfo, w.gather toInfo state o =
        { w with infoErr := infoErr, openedInfo := openedInfo, closedInfo := closedInfo } := by
  rcases gather_cases toInfo state o w with
    h | ⟨-, err, h⟩ | ⟨-, -, s, h⟩ | ⟨-, -, s, h⟩ <;> rw [h]
  . exact ⟨w.infoErr, w.openedInfo, w.closedInfo, rfl⟩
  . exact ⟨some err, w.openedInfo, w.closedInfo, rfl⟩
  . exact ⟨w.infoErr, some (toInfo s), w.closedInfo, rfl⟩
  . exact ⟨w.infoErr, w.openedInfo, some (toInfo s), rfl⟩

theorem gatherAndReport_of_not_hasReportStats (h : w.hasReportStats = false)
    : w.gatherAndReport toInfo state o = (w, []) := by
  unfold gatherAndReport
  rw [if_pos (by simp [h])]

variable {n : Int64} {err : Option Go.Error} {now : Int64}

theorem read_eq
    : w.read n err now =
        { w with
          firstRxAt := if err = none ∧ n > 0 ∧ w.firstRxAt = 0 then now else w.firstRxAt
          lastRxAt := if err = none ∧ n > 0 then now else w.lastRxAt
          rxBytes := w.rxBytes + n
          rxErr :=
            match err with
            | some e => if e.asNetError = some false then some e else w.rxErr
            | none => w.rxErr } := by
  cases err with
  | none =>
    by_cases hn : n > 0
    . by_cases hf : w.firstRxAt = 0 <;> simp [read, hn, hf]
    . simp [read, hn]
  | some e => by_cases ha : e.asNetError = some false <;> simp [read, ha]

theorem write_eq
    : w.write n err now =
        { w with
          firstTxAt := if err = none ∧ n > 0 ∧ w.firstTxAt = 0 then now else w.firstTxAt
          lastTxAt := if err = none ∧ n > 0 then now else w.lastTxAt
          txBytes := w.txBytes + n
          txErr := err } := by
  cases err with
  | none =>
    by_cases hn : n > 0
    . by_cases hf : w.firstTxAt = 0 <;> simp [write, hn, hf]
    . simp [write, hn]
  | some e => by_cases ha : e.asNetError = some false <;> simp [write, ha]

end Conn

end Conniver
