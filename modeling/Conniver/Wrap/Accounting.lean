import Conniver.Wrap.Protocol

/-!
Byte and timestamp accounting of the wrapper. Each direction keeps four registers: the bytes
moved, the clock values of the first and of the last transfer that moved data without an
error, and an error. A transfer adds its count whatever its error; the clock is read, and a
time stamped, only for data moved without an error. A read keeps its error only if it is a
`net.Error` that is not a timeout. A write keeps the error of every write, nil included: its
guarded second assignment stores the value the first one stored. So reads and writes keep
bytes and times by one rule and errors by two.
-/

namespace Conniver

open Tcpinfo

-- what the wrapped connection returned to one `Read` or `Write`, and the clock value then
structure Transfer where
  n : Int64
  err : Option Go.Error
  now : Int64
  deriving DecidableEq, Repr

namespace Transfer

-- `err == nil && n > 0`
def delivers (t : Transfer) : Bool :=
  decide (t.err = none ∧ t.n > 0)

def deliveredAt (t : Transfer) : Option Int64 :=
  if t.delivers then some t.now else none

-- `err.(net.Error)` with `!err.Timeout()`
def netError (t : Transfer) : Option (Option Go.Error) :=
  match t.err with
  | some e => if e.asNetError = some false then some (some e) else none
  | none => none

theorem latch_deliveredAt (first n : Int64) (err : Option Go.Error) (now : Int64)
    : Events.latch deliveredAt 0 first ⟨n, err, now⟩ =
        if err = none ∧ n > 0 ∧ first = 0 then now else first := by
  by_cases hd : err = none ∧ n > 0
  . by_cases hf : first = 0 <;> simp [Events.latch, deliveredAt, delivers, hd, hf]
  . rw [if_neg (fun h => hd ⟨h.1, h.2.1⟩)]
    by_cases hf : first = 0 <;> simp [Events.latch, deliveredAt, delivers, hd, hf]

theorem overwrite_deliveredAt (last n : Int64) (err : Option Go.Error) (now : Int64)
    : Events.overwrite deliveredAt last ⟨n, err, now⟩ = if err = none ∧ n > 0 then now else last := by
  by_cases hd : err = none ∧ n > 0 <;> simp [Events.overwrite, deliveredAt, delivers, hd]

end Transfer

structure DirStats where
  bytes : Int64
  firstAt : Int64
  lastAt : Int64
  err : Option Go.Error
  deriving DecidableEq, Repr

namespace DirStats

-- one transfer; `keepErr` picks the errors the direction keeps
def record (keepErr : Transfer → Option (Option Go.Error)) (d : DirStats) (t : Transfer)
    : DirStats where
  bytes := d.bytes + t.n
  firstAt := Events.latch Transfer.deliveredAt 0 d.firstAt t
  lastAt := Events.overwrite Transfer.deliveredAt d.lastAt t
  err := Events.overwrite keepErr d.err t

def read : DirStats → Transfer → DirStats :=
  record Transfer.netError

def write : DirStats → Transfer → DirStats :=
  record (fun t => some t.err)

end DirStats

variable {Sys : Type} {toInfo : Sys → Info Sys}

def Call.readResult : Call Sys → Option Transfer
  | .read n err now => some ⟨n, err, now⟩
  | _ => none

def Call.writeResult : Call Sys → Option Transfer
  | .write n err now => some ⟨n, err, now⟩
  | _ => none

-- the clock value a call reads: `Read` and `Write` read it only to stamp data moved without
-- an error, `Close` always
def Call.clockRead : Call Sys → Option Int64
  | .read n err now => Transfer.deliveredAt ⟨n, err, now⟩
  | .write n err now => Transfer.deliveredAt ⟨n, err, now⟩
  | .close now _ => some now
  | _ => none

namespace Conn

def rxStats (w : Conn Sys) : DirStats :=
  ⟨w.rxBytes, w.firstRxAt, w.lastRxAt, w.rxErr⟩

def txStats (w : Conn Sys) : DirStats :=
  ⟨w.txBytes, w.firstTxAt, w.lastTxAt, w.txErr⟩

variable {w : Conn Sys} {n : Int64} {err : Option Go.Error} {now : Int64}
  {state : Int64} {o : GatherOutcome Sys}

theorem rxStats_read : (w.read n err now).rxStats = w.rxStats.read ⟨n, err, now⟩ := by
  rw [read_eq]
  simp only [rxStats, DirStats.read, DirStats.record, Transfer.latch_deliveredAt,
    Transfer.overwrite_deliveredAt, DirStats.mk.injEq, true_and]
  cases err with
  | none => rfl
  | some e => by_cases ha : e.asNetError = some false <;>
      simp [Events.overwrite, Transfer.netError, ha]

theorem txStats_write : (w.write n err now).txStats = w.txStats.write ⟨n, err, now⟩ := by
  rw [write_eq]
  simp only [txStats, DirStats.write, DirStats.record, Transfer.latch_deliveredAt,
    Transfer.overwrite_deliveredAt]
  rfl

theorem txStats_read : (w.read n err now).txStats = w.txStats := by
  rw [read_eq]
  rfl

theorem rxStats_write : (w.write n err now).rxStats = w.rxStats := by
  rw [write_eq]
  rfl

theorem close_traffic
    : (w.close toInfo now o).1.rxStats = w.rxStats ∧ (w.close toInfo now o).1.txStats = w.txStats ∧
      (w.close toInfo now o).1.openedAt = w.openedAt := by
  rcases close_cases toInfo now o w with h | ⟨-, -, h⟩ <;> rw [h]
  . exact ⟨rfl, rfl, rfl⟩
  . obtain ⟨infoErr, openedInfo, closedInfo, hg⟩ :=
      gather_frame toInfo closed o { w with closedAt := now }
    rw [hg]
    exact ⟨rfl, rfl, rfl⟩

end Conn

section record

variable (keepErr : Transfer → Option (Option Go.Error)) (ts : List Transfer) (d : DirStats)

theorem bytes_foldl_record
    : (ts.foldl (DirStats.record keepErr) d).bytes = ts.foldl (fun acc t => acc + t.n) d.bytes :=
  (List.foldl_hom DirStats.bytes (fun _ _ => rfl)).symm

theorem firstAt_foldl_record
    : (ts.foldl (DirStats.record keepErr) d).firstAt =
        ts.foldl (Events.latch Transfer.deliveredAt 0) d.firstAt :=
  (List.foldl_hom DirStats.firstAt (fun _ _ => rfl)).symm

theorem lastAt_foldl_record
    : (ts.foldl (DirStats.record keepErr) d).lastAt =
        ts.foldl (Events.overwrite Transfer.deliveredAt) d.lastAt :=
  (List.foldl_hom DirStats.lastAt (fun _ _ => rfl)).symm

theorem err_foldl_record
    : (ts.foldl (DirStats.record keepErr) d).err = ts.foldl (Events.overwrite keepErr) d.err :=
  (List.foldl_hom DirStats.err (fun _ _ => rfl)).symm

-- the accounting the wrapper promises for one direction after the transfers `ts`, when the
-- clock was first read at `openedAt`
structure DirStats.Accounts (d : DirStats) (openedAt : Int64) (ts : List Transfer) : Prop where
  bytes : d.bytes.toInt = (ts.map fun t => t.n.toInt).sum
  firstAt_ne_zero_iff : d.firstAt ≠ 0 ↔ ∃ t ∈ ts, t.delivers = true
  firstAt : d.firstAt = ((ts.filterMap Transfer.deliveredAt).head?).getD 0
  lastAt : d.lastAt = ((ts.filterMap Transfer.deliveredAt).getLast?).getD 0
  ordered : (∃ t ∈ ts, t.delivers = true) → openedAt ≤ d.firstAt ∧ d.firstAt ≤ d.lastAt

theorem delivers_iff_deliveredAt_ne_nil
    : (∃ t ∈ ts, t.delivers = true) ↔ ts.filterMap Transfer.deliveredAt ≠ [] := by
  rw [ne_eq, List.filterMap_eq_nil_iff]
  simp [Transfer.deliveredAt]

theorem accounts_foldl_record (openedAt : Int64) (err : Option Go.Error)
    (hn : ∀ t ∈ ts, 0 ≤ t.n) (hopen : 0 < openedAt)
    (hclock : (openedAt :: ts.filterMap Transfer.deliveredAt).Pairwise (· ≤ ·))
    (hsum : (ts.map fun t => t.n.toInt).sum < 2 ^ 63)
    : (ts.foldl (DirStats.record keepErr) ⟨0, 0, 0, err⟩).Accounts openedAt ts := by
  have hafter : ∀ v ∈ ts.filterMap Transfer.deliveredAt, openedAt ≤ v :=
    (List.pairwise_cons.1 hclock).1
  -- every stamp is at or after `openedAt`, so none is the unset value
  have hpos : ∀ v ∈ ts.filterMap Transfer.deliveredAt, v ≠ 0 := by
    intro v hv hv0
    have hle := hafter v hv
    rw [hv0, Int64.le_iff_toInt_le] at hle
    rw [Int64.lt_iff_toInt_lt] at hopen
    simp only [Int64.toInt_zero] at hle hopen
    omega
  have hz : ∀ t ∈ ts, Transfer.deliveredAt t ≠ some 0 :=
    fun t ht h => hpos 0 (List.mem_filterMap.2 ⟨t, ht, h⟩) rfl
  have hfirst : (ts.foldl (DirStats.record keepErr) ⟨0, 0, 0, err⟩).firstAt =
      ((ts.filterMap Transfer.deliveredAt).head?).getD 0 := by
    rw [firstAt_foldl_record, Events.foldl_latch ts hz, if_pos rfl]
  have hlast : (ts.foldl (DirStats.record keepErr) ⟨0, 0, 0, err⟩).lastAt =
      ((ts.filterMap Transfer.deliveredAt).getLast?).getD 0 := by
    rw [lastAt_foldl_record, Events.foldl_overwrite]
  refine ⟨?_, ?_, hfirst, hlast, ?_⟩
  . have hn' : ∀ t ∈ ts, 0 ≤ t.n.toInt := by
      intro t ht
      simpa using Int64.le_iff_toInt_le.1 (hn t ht)
    rw [bytes_foldl_record, Events.toInt_foldl_add Transfer.n ts 0 (by simp) hn' (by simpa using hsum)]
    simp
  . rw [delivers_iff_deliveredAt_ne_nil, hfirst]
    constructor
    . intro h hnil
      rw [hnil] at h
      exact h rfl
    . intro hne
      rw [List.head?_eq_some_head hne, Option.getD_some]
      exact hpos _ (List.head_mem hne)
  . intro h
    have hne := (delivers_iff_deliveredAt_ne_nil ts).1 h
    rw [hfirst, hlast, List.head?_eq_some_head hne, List.getLast?_eq_some_getLast hne,
      Option.getD_some, Option.getD_some]
    exact ⟨hafter _ (List.head_mem hne),
      Events.head_le_getLast_of_pairwise Int64.le_refl (List.pairwise_cons.1 hclock).2 hne⟩

end record

section run

variable (w : Conn Sys) (calls : List (Call Sys))

theorem run_rxStats
    : (Mealy.run (step toInfo) w calls).1.rxStats =
        (calls.filterMap Call.readResult).foldl DirStats.read w.rxStats := by
  apply Mealy.run_view Conn.rxStats Call.readResult DirStats.read
  . intro w c t h
    cases c with
    | read n err now =>
      simp only [Call.readResult, Option.some.injEq] at h
      subst h
      exact Conn.rxStats_read
    | _ => simp [Call.readResult] at h
  . intro w c h
    cases c with
    | read n err now => simp [Call.readResult] at h
    | write n err now => exact Conn.rxStats_write
    | close now o => exact Conn.close_traffic.1
    | _ => rfl

theorem run_txStats
    : (Mealy.run (step toInfo) w calls).1.txStats =
        (calls.filterMap Call.writeResult).foldl DirStats.write w.txStats := by
  apply Mealy.run_view Conn.txStats Call.writeResult DirStats.write
  . intro w c t h
    cases c with
    | write n err now =>
      simp only [Call.writeResult, Option.some.injEq] at h
      subst h
      exact Conn.txStats_write
    | _ => simp [Call.writeResult] at h
  . intro w c h
    cases c with
    | read n err now => exact Conn.txStats_read
    | write n err now => simp [Call.writeResult] at h
    | close now o => exact Conn.close_traffic.2.1
    | _ => rfl

theorem run_openedAt : (Mealy.run (step toInfo) w calls).1.openedAt = w.openedAt := by
  apply Mealy.run_rel (fun w w' : Conn Sys => w'.openedAt = w.openedAt) (fun _ => rfl)
    (fun _ _ _ h₁ h₂ => h₂.trans h₁)
  intro w c
  cases c with
  | read n err now => rw [step, Conn.read_eq]
  | write n err now => rw [step, Conn.write_eq]
  | close now o => exact Conn.close_traffic.2.2
  | _ => rfl

theorem readResult_clockRead (c : Call Sys) (t : Transfer) (h : c.readResult = some t)
    : c.clockRead = t.deliveredAt := by
  cases c with
  | read n err now =>
    simp only [Call.readResult, Option.some.injEq] at h
    rw [← h]
    rfl
  | _ => simp [Call.readResult] at h

theorem writeResult_clockRead (c : Call Sys) (t : Transfer) (h : c.writeResult = some t)
    : c.clockRead = t.deliveredAt := by
  cases c with
  | write n err now =>
    simp only [Call.writeResult, Option.some.injEq] at h
    rw [← h]
    rfl
  | _ => simp [Call.writeResult] at h

theorem stamps_sublist (sel : Call Sys → Option Transfer)
    (hsel : ∀ c t, sel c = some t → c.clockRead = t.deliveredAt)
    : ((calls.filterMap sel).filterMap Transfer.deliveredAt).Sublist
        (calls.filterMap Call.clockRead) := by
  rw [List.filterMap_filterMap]
  apply Events.filterMap_sublist_of_imp
  intro c v h
  obtain ⟨t, ht, hv⟩ := Option.bind_eq_some_iff.1 h
  rw [hsel c t ht, hv]

end run

section wrap

variable (ncon : NetConn) (hasReportStats : Bool) (now : Int64) (supported : Bool)
  (o : GatherOutcome Sys)

variable (toInfo) in
theorem wrapConn_traffic
    : (wrapConn toInfo ncon hasReportStats now supported o).1.openedAt = now ∧
      (wrapConn toInfo ncon hasReportStats now supported o).1.rxStats = ⟨0, 0, 0, none⟩ ∧
      (wrapConn toInfo ncon hasReportStats now supported o).1.txStats = ⟨0, 0, 0, none⟩ := by
  unfold wrapConn wrapConnWithContext
  rcases Conn.gatherAndReport_cases toInfo opened o
    ({ conn := ncon, hasReportStats := hasReportStats, openedAt := now,
       supportsTCPInfo := supported } : Conn Sys) with h | ⟨-, -, h⟩ <;> rw [h]
  . exact ⟨rfl, rfl, rfl⟩
  . obtain ⟨infoErr, openedInfo, closedInfo, hg⟩ := Conn.gather_frame toInfo opened o
      ({ conn := ncon, hasReportStats := hasReportStats, openedAt := now,
         supportsTCPInfo := supported } : Conn Sys)
    rw [hg]
    exact ⟨rfl, rfl, rfl⟩

theorem wrapConn_accounting (calls : List (Call Sys))
    (hrxn : ∀ t ∈ calls.filterMap Call.readResult, 0 ≤ t.n)
    (htxn : ∀ t ∈ calls.filterMap Call.writeResult, 0 ≤ t.n)
    (hopen : 0 < now) (hclock : (now :: calls.filterMap Call.clockRead).Pairwise (· ≤ ·))
    (hrx : ((calls.filterMap Call.readResult).map fun t => t.n.toInt).sum < 2 ^ 63)
    (htx : ((calls.filterMap Call.writeResult).map fun t => t.n.toInt).sum < 2 ^ 63)
    : let w := (Mealy.run (step toInfo) (wrapConn toInfo ncon hasReportStats now supported o).1
        calls).1
      w.rxStats.Accounts w.openedAt (calls.filterMap Call.readResult) ∧
      w.txStats.Accounts w.openedAt (calls.filterMap Call.writeResult) := by
  intro w
  obtain ⟨hopenedAt, hrx0, htx0⟩ := wrapConn_traffic toInfo ncon hasReportStats now supported o
  have hat : w.openedAt = now := by
    simp only [w]
    rw [run_openedAt, hopenedAt]
  rw [hat]
  constructor
  . simp only [w]
    rw [run_rxStats, hrx0]
    exact accounts_foldl_record _ _ now none hrxn hopen
      (hclock.sublist ((stamps_sublist calls _ readResult_clockRead).cons_cons now)) hrx
  . simp only [w]
    rw [run_txStats, htx0]
    exact accounts_foldl_record _ _ now none htxn hopen
      (hclock.sublist ((stamps_sublist calls _ writeResult_clockRead).cons_cons now)) htx

theorem wrapConn_accounting_read_write_reset
    : let toInfo : Unit → Info Unit := fun s => { sys := s }
      let calls : List (Call Unit) :=
        [.read 5 none 2, .write 3 none 3, .read 4 (some (.net "connection reset" false)) 4]
      let w := (Mealy.run (step toInfo)
        (wrapConn toInfo ⟨true, "", ""⟩ false 1 true { getTCPInfo := (none, none) }).1 calls).1
      w.rxStats.Accounts w.openedAt (calls.filterMap Call.readResult) ∧
        w.txStats.Accounts w.openedAt (calls.filterMap Call.writeResult) :=
  wrapConn_accounting ⟨true, "", ""⟩ false 1 true _ _ (by decide) (by decide) (by decide)
    (by decide) (by decide) (by decide)

end wrap

theorem read_eof_counts_bytes_without_firstRxAt
    : let toInfo : Unit → Info Unit := fun s => { sys := s }
      let wrapped := wrapConn toInfo ⟨true, "", ""⟩ false 1 true { getTCPInfo := (none, none) }
      let w := (Mealy.run (step toInfo) wrapped.1 [.read 5 (some (.other "EOF")) 2]).1
      w.rxBytes = 5 ∧ w.firstRxAt = 0 := by
  intro toInfo wrapped w
  exact ⟨rfl, rfl⟩

section compare

variable (w : Conn Sys) (ts : List Transfer)

theorem filterMap_readResult_map_read
    : (ts.map fun t => (Call.read t.n t.err t.now : Call Sys)).filterMap Call.readResult = ts := by
  induction ts with
  | nil => rfl
  | cons t ts ih =>
    rw [List.map_cons, List.filterMap_cons, ih]
    rfl

theorem filterMap_writeResult_map_write
    : (ts.map fun t => (Call.write t.n t.err t.now : Call Sys)).filterMap Call.writeResult = ts := by
  induction ts with
  | nil => rfl
  | cons t ts ih =>
    rw [List.map_cons, List.filterMap_cons, ih]
    rfl

theorem run_writes_agree_with_reads_but_err (h : w.txStats = w.rxStats)
    : let rx := (Mealy.run (step toInfo) w (ts.map fun t => .read t.n t.err t.now)).1.rxStats
      let tx := (Mealy.run (step toInfo) w (ts.map fun t => .write t.n t.err t.now)).1.txStats
      tx.bytes = rx.bytes ∧ tx.firstAt = rx.firstAt ∧ tx.lastAt = rx.lastAt ∧
        rx.err = ((ts.filterMap Transfer.netError).getLast?).getD w.rxErr ∧
        tx.err = ((ts.map Transfer.err).getLast?).getD w.txErr := by
  intro rx tx
  have hrx : rx = ts.foldl DirStats.read w.rxStats := by
    simp only [rx]
    rw [run_rxStats, filterMap_readResult_map_read]
  have htx : tx = ts.foldl DirStats.write w.txStats := by
    simp only [tx]
    rw [run_txStats, filterMap_writeResult_map_write]
  rw [hrx, htx, h]
  refine ⟨?_, ?_, ?_, ?_, ?_⟩
  . rw [DirStats.write, DirStats.read, bytes_foldl_record, bytes_foldl_record]
  . rw [DirStats.write, DirStats.read, firstAt_foldl_record, firstAt_foldl_record]
  . rw [DirStats.write, DirStats.read, lastAt_foldl_record, lastAt_foldl_record]
  . rw [DirStats.read, err_foldl_record, Events.foldl_overwrite]
    rfl
  . -- the write side folds from `w.rxStats` after the rewrite; its error is `w.txErr`
    have herr : w.rxStats.err = w.txErr := by rw [← h]; rfl
    rw [DirStats.write, err_foldl_record, Events.foldl_overwrite, herr]
    congr
    exact congrFun (@List.filterMap_eq_map _ _ Transfer.err) ts

theorem run_writes_agree_with_reads_but_err_eof
    : let toInfo : Unit → Info Unit := fun s => { sys := s }
      let w := (wrapConn toInfo ⟨true, "", ""⟩ false 1 true { getTCPInfo := (none, none) }).1
      let ts : List Transfer := [⟨5, none, 2⟩, ⟨0, some (.other "EOF"), 3⟩]
      w.txStats = w.rxStats ∧
        let rx := (Mealy.run (step toInfo) w (ts.map fun t => .read t.n t.err t.now)).1.rxStats
        let tx := (Mealy.run (step toInfo) w (ts.map fun t => .write t.n t.err t.now)).1.txStats
        tx.bytes = rx.bytes ∧ tx.firstAt = rx.firstAt ∧ tx.lastAt = rx.lastAt ∧
          rx.err = ((ts.filterMap Transfer.netError).getLast?).getD w.rxErr ∧
          tx.err = ((ts.map Transfer.err).getLast?).getD w.txErr := by
  intro toInfo w ts
  exact ⟨rfl, run_writes_agree_with_reads_but_err w ts rfl⟩

end compare

theorem write_keeps_eof_read_drops_it
    : let toInfo : Unit → Info Unit := fun s => { sys := s }
      let wrapped := (wrapConn toInfo ⟨true, "", ""⟩ false 1 true { getTCPInfo := (none, none) }).1
      let eof : Go.Error := .other "EOF"
      (Mealy.run (step toInfo) wrapped [.write 0 (some eof) 2]).1.txErr = some eof ∧
        (Mealy.run (step toInfo) wrapped [.read 0 (some eof) 2]).1.rxErr = none := by
  intro toInfo wrapped eof
  exact ⟨rfl, rfl⟩

end Conniver
