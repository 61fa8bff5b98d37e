import Conniver.Wrap.Protocol
import Conniver.Tcpinfo.Linux.GetTCPInfo
import Conniver.Tcpinfo.Linux.Availability

/-!
The wrapper over the Linux backend. A gathering stores the information of a record only when
`tcpinfo.GetTCPInfo` returned it with no error; when a query fails it records the error in
`InfoErr` and drops the record, even the partial one that the Linux `GetTCPInfo` returns
with a failed congestion-control query. So every `OpenedInfo` and `ClosedInfo` a connection
ever holds, and every one a report shows, comes from queries that all succeeded, and keeps
the README's promise about its fields exactly when the kernel is outside the two ranges of
releases where the table of `init_linux.go` is off. And since `InfoErr` stays once set, a
query that fails while the connection is wrapped leaves it with no information at all,
whatever calls follow.
-/

namespace Conniver

open Tcpinfo

section infos

variable {Sys : Type} {toInfo : Sys → Info Sys}

variable (toInfo) in
-- the information a connection holds is that of records with the property `P`
def Conn.InfosFrom (P : Sys → Prop) (w : Conn Sys) : Prop :=
  (∀ i ∈ w.openedInfo, ∃ s, P s ∧ i = toInfo s) ∧
    (∀ i ∈ w.closedInfo, ∃ s, P s ∧ i = toInfo s)

-- every record that a gathering may store has the property `P`
def GatherOutcome.Yields (P : Sys → Prop) (o : GatherOutcome Sys) : Prop :=
  ∀ s, o.getTCPInfo = (some s, none) → P s

-- the outcome of the gathering a call makes, if it makes one
def Call.outcome : Call Sys → Option (GatherOutcome Sys)
  | .close _ o => some o
  | _ => none

variable {P : Sys → Prop} {w : Conn Sys} {state : Int64} {o : GatherOutcome Sys}

theorem Conn.gather_infosFrom (ho : o.Yields P) (hw : w.InfosFrom toInfo P)
    : (w.gather toInfo state o).InfosFrom toInfo P := by
  unfold Conn.gather
  split
  . exact hw
  split
  . exact hw
  split
  . exact hw
  split
  . exact hw
  . exact hw
  . exact hw
  -- the one branch that stores: the record came back with no error
  . rename_i sysInfo _ hget
    have hs : P sysInfo := ho sysInfo hget
    split
    . refine ⟨fun i hi => ⟨sysInfo, hs, ?_⟩, hw.2⟩
      rw [Option.mem_def, Option.some.injEq] at hi
      exact hi.symm
    . refine ⟨hw.1, fun i hi => ⟨sysInfo, hs, ?_⟩⟩
      rw [Option.mem_def, Option.some.injEq] at hi
      exact hi.symm

theorem Conn.gatherAndReport_infosFrom (ho : o.Yields P) (hw : w.InfosFrom toInfo P)
    : (w.gatherAndReport toInfo state o).1.InfosFrom toInfo P ∧
        ∀ rep ∈ (w.gatherAndReport toInfo state o).2, rep.conn.InfosFrom toInfo P := by
  rcases Conn.gatherAndReport_cases toInfo state o w with h | ⟨-, -, h⟩ <;> rw [h]
  . exact ⟨hw, by simp⟩
  . refine ⟨Conn.gather_infosFrom ho hw, fun rep hrep => ?_⟩
    rw [List.mem_singleton.1 hrep]
    exact Conn.gather_infosFrom ho hw

theorem step_infosFrom (c : Call Sys) (hc : ∀ o ∈ c.outcome, o.Yields P)
    (hw : w.InfosFrom toInfo P)
    : (step toInfo w c).1.InfosFrom toInfo P ∧
        ∀ rep ∈ (step toInfo w c).2, rep.conn.InfosFrom toInfo P := by
  cases c with
  | read n err now =>
    exact ⟨by simpa [Conn.InfosFrom, step, Conn.read_eq] using hw, by simp [step]⟩
  | write n err now =>
    exact ⟨by simpa [Conn.InfosFrom, step, Conn.write_eq] using hw, by simp [step]⟩
  | setReconnects k => exact ⟨hw, by simp [step]⟩
  | warnings => exact ⟨hw, by simp [step]⟩
  | toMap => exact ⟨hw, by simp [step]⟩
  | close now o =>
    exact Conn.gatherAndReport_infosFrom (hc o rfl) hw

variable (toInfo) in
theorem run_infosFrom (calls : List (Call Sys))
    (hcalls : ∀ c ∈ calls, ∀ o ∈ c.outcome, o.Yields P) (hw : w.InfosFrom toInfo P)
    : (Mealy.run (step toInfo) w calls).1.InfosFrom toInfo P ∧
        ∀ rep ∈ (Mealy.run (step toInfo) w calls).2, rep.conn.InfosFrom toInfo P :=
  Mealy.run_guarded_invariant (fun c => ∀ o ∈ c.outcome, o.Yields P) (Conn.InfosFrom toInfo P)
    (fun rep : Report Sys => rep.conn.InfosFrom toInfo P)
    (fun _ c hc hw => step_infosFrom c hc hw) w calls hcalls hw

end infos

section lost

variable {Sys : Type} {toInfo : Sys → Info Sys}

theorem Conn.gather_of_getTCPInfo_error {w : Conn Sys} {state : Int64} {o : GatherOutcome Sys}
    {err : Go.Error} (hsupported : w.supportsTCPInfo = true) (hnone : w.infoErr = none)
    (htcp : w.conn.isTCPConn = true) (hsyscall : o.syscallConnErr = none)
    (hcontrol : o.controlErr = none) (herr : o.getTCPInfo.2 = some err)
    : w.gather toInfo state o = { w with infoErr := some err } := by
  have hres : o.getTCPInfo = (o.getTCPInfo.1, some err) := Prod.ext rfl herr
  unfold Conn.gather
  rw [if_neg (by simp [hsupported, hnone]), if_neg (by simp [htcp]), if_neg (by simp [hsyscall]),
    hcontrol, hres]

def Conn.InfoLost (w : Conn Sys) : Prop :=
  w.infoErr.isSome = true ∧ w.closedInfo = none

variable (toInfo) in
theorem step_infoLost {w : Conn Sys} (c : Call Sys) (hw : w.InfoLost)
    : (step toInfo w c).1.InfoLost ∧ ∀ rep ∈ (step toInfo w c).2, rep.conn.InfoLost := by
  have hkept : InfoKept w (step toInfo w c).1 := step_infoKept w c
  obtain ⟨herr, hclosed⟩ := hkept.infoErr hw.1
  refine ⟨⟨by rw [herr]; exact hw.1, by rw [hclosed]; exact hw.2⟩, fun rep hrep => ?_⟩
  -- a report comes from a `Close`, whose gathering the recorded error skips
  rcases step_reports w c with h0 | ⟨t, g, rfl, -, hr, -⟩
  . rw [h0] at hrep
    simp at hrep
  . rcases Conn.close_cases toInfo t g w with h | ⟨-, -, h⟩
    . simp [step, h] at hrep
    . simp only [step, h, List.mem_singleton] at hrep
      rw [hrep, Conn.gather_of_infoErr (by exact hw.1)]
      exact hw

end lost

namespace Linux

open Kernel Tcpinfo.Linux

/--
A gathering on Linux: what `SyscallConn` and `Control` return, and `GetTCPInfo` with the
answers of the queries it issues.
-/
def linuxOutcome (g : Globals) (syscallConnErr controlErr : Option Go.Error) (q : Queries)
    : GatherOutcome SysInfo :=
  { syscallConnErr := syscallConnErr, controlErr := controlErr, getTCPInfo := getTCPInfo g q }

-- a record that `GetTCPInfo` returns for queries that all succeeded
def Complete (g : Globals) (s : SysInfo) : Prop :=
  ∃ q : Queries, ¬ q.SomeIssuedFailed ∧ (getTCPInfo g q).1 = some s

theorem getTCPInfo_error_isSome_iff {g : Globals} (hflag : supported g = true) (q : Queries)
    : (getTCPInfo g q).2.isSome ↔ q.SomeIssuedFailed := by
  have hcheck : (!g.flags .kernelVersionIsAtLeast_2_6_2) = false := by
    simpa [supported] using hflag
  cases hr : q.tcpInfo with
  | error err => simp [getTCPInfo, hcheck, hr, Queries.SomeIssuedFailed]
  | ok r =>
    obtain ⟨-, -, -, -, -, -, -, herr⟩ := getTCPInfo_of_ok (by simpa [supported] using hflag) hr
    exact herr

theorem linuxOutcome_yields (g : Globals) (syscallConnErr controlErr : Option Go.Error)
    (q : Queries) : (linuxOutcome g syscallConnErr controlErr q).Yields (Complete g) := by
  intro s hget
  replace hget : getTCPInfo g q = (some s, none) := hget
  -- on a kernel too old `GetTCPInfo` returns no record
  have hflag : supported g = true := by
    by_contra hflag
    have hold : g.flags .kernelVersionIsAtLeast_2_6_2 = false := by simpa [supported] using hflag
    simp [getTCPInfo, hold] at hget
  refine ⟨q, fun hfail => ?_, by rw [hget]⟩
  have herr := (getTCPInfo_error_isSome_iff hflag q).2 hfail
  rw [hget] at herr
  exact Bool.false_ne_true herr

theorem Complete.withoutCC {g : Globals} {s : SysInfo} (h : Complete g s)
    : ∃ packed : RawTCPInfo, s.withoutCC = packed.unpack g := by
  obtain ⟨q, -, hs⟩ := h
  have hflag : g.flags .kernelVersionIsAtLeast_2_6_2 = true := by
    cases hold : g.flags .kernelVersionIsAtLeast_2_6_2 with
    | false => simp [getTCPInfo, hold] at hs
    | true => rfl
  cases hr : q.tcpInfo with
  | error err => simp [getTCPInfo, hflag, hr] at hs
  | ok r =>
    obtain ⟨t, ht, htr, -⟩ := getTCPInfo_of_ok hflag hr
    rw [ht, Option.some.injEq] at hs
    exact ⟨r, by rw [← hs, TCPInfoPlusCC.withoutCC_unpack, htr]⟩

-- what complete queries give holds of every information a run on Linux shows
theorem linux_infosFrom_of_complete (g : Globals) (P : SysInfo → Prop)
    (hP : ∀ s, Complete g s → P s) (ncon : NetConn) (hasReportStats : Bool) (now : Int64)
    (syscallConnErr controlErr : Option Go.Error) (q : Queries) (calls : List (Call SysInfo))
    (hcalls : ∀ c ∈ calls, ∀ o ∈ c.outcome, ∃ sce ce q', o = linuxOutcome g sce ce q')
    : let wrapped := wrapConn SysInfo.toInfo ncon hasReportStats now (supported g)
        (linuxOutcome g syscallConnErr controlErr q)
      let final := Mealy.run (step SysInfo.toInfo) wrapped.1 calls
      ∀ w ∈ final.1 :: (wrapped.2 ++ final.2).map Report.conn, w.InfosFrom SysInfo.toInfo P := by
  intro wrapped final
  have hyields : ∀ sce ce q', (linuxOutcome g sce ce q').Yields P :=
    fun sce ce q' s hs => hP s (linuxOutcome_yields g sce ce q' s hs)
  have hfresh : Conn.InfosFrom SysInfo.toInfo P
      ({ conn := ncon, hasReportStats := hasReportStats, openedAt := now,
         supportsTCPInfo := supported g } : Conn SysInfo) :=
    ⟨fun i hi => by simp at hi, fun i hi => by simp at hi⟩
  obtain ⟨hwrapped, hopen⟩ :=
    Conn.gatherAndReport_infosFrom (hyields syscallConnErr controlErr q) hfresh
  obtain ⟨hfinal, hreports⟩ := run_infosFrom SysInfo.toInfo calls
    (fun c hc o ho => by
      obtain ⟨sce, ce, q', rfl⟩ := hcalls c hc o ho
      exact hyields sce ce q') hwrapped
  intro w hw
  rw [List.mem_cons, List.map_append, List.mem_append] at hw
  rcases hw with rfl | hw | hw
  . exact hfinal
  . obtain ⟨rep, hrep, rfl⟩ := List.mem_map.1 hw
    exact hopen rep hrep
  . obtain ⟨rep, hrep, rfl⟩ := List.mem_map.1 hw
    exact hreports rep hrep

theorem linux_infos_from_complete_queries (g : Globals) (ncon : NetConn) (hasReportStats : Bool)
    (now : Int64) (syscallConnErr controlErr : Option Go.Error) (q : Queries)
    (calls : List (Call SysInfo))
    (hcalls : ∀ c ∈ calls, ∀ o ∈ c.outcome, ∃ sce ce q', o = linuxOutcome g sce ce q')
    : let wrapped := wrapConn SysInfo.toInfo ncon hasReportStats now (supported g)
        (linuxOutcome g syscallConnErr controlErr q)
      let final := Mealy.run (step SysInfo.toInfo) wrapped.1 calls
      ∀ w ∈ final.1 :: (wrapped.2 ++ final.2).map Report.conn,
        w.InfosFrom SysInfo.toInfo (Complete g) :=
  linux_infosFrom_of_complete g (Complete g) (fun _ h => h) ncon hasReportStats now
    syscallConnErr controlErr q calls hcalls

theorem outcome_close_linuxOutcome {g : Globals} {t : Int64} {sce ce : Option Go.Error}
    {q : Queries} : ∀ c ∈ [Call.close t (linuxOutcome g sce ce q)], ∀ o ∈ c.outcome,
      ∃ sce' ce' q', o = linuxOutcome g sce' ce' q' := by
  intro c hc o ho
  rw [List.mem_singleton.1 hc] at ho
  exact ⟨sce, ce, q, (Option.some.inj (Option.mem_def.1 ho)).symm⟩

theorem linux_infos_from_complete_queries_close
    : let q : Queries := ⟨.ok {}, .ok "cubic", .ok ⟨0, 0, 0, 0⟩, .ok ⟨0, 0, 0, 0, 0⟩,
        .ok ⟨0, 0, 0, 0, 0⟩⟩
      let g := init (.ok ⟨5, 10, 0, ""⟩)
      let wrapped := wrapConn SysInfo.toInfo ⟨true, "", ""⟩ true 1 (supported g)
        (linuxOutcome g none none q)
      let final := Mealy.run (step SysInfo.toInfo) wrapped.1 [.close 5 (linuxOutcome g none none q)]
      ∀ w ∈ final.1 :: (wrapped.2 ++ final.2).map Report.conn,
        w.InfosFrom SysInfo.toInfo (Complete g) :=
  linux_infos_from_complete_queries _ _ _ _ _ _ _ _ outcome_close_linuxOutcome

theorem linux_infos_fieldsAsIntroduced_iff (v : VersionInfo)
    (hv : compareKernelVersion v ⟨2, 6, 2, ""⟩ ≥ 0) (ncon : NetConn) (hasReportStats : Bool)
    (now : Int64) (syscallConnErr controlErr : Option Go.Error) (q : Queries)
    (calls : List (Call SysInfo))
    (hcalls : ∀ c ∈ calls, ∀ o ∈ c.outcome, ∃ sce ce q', o = linuxOutcome (init (.ok v)) sce ce q')
    : let g := init (.ok v)
      let wrapped := wrapConn SysInfo.toInfo ncon hasReportStats now (supported g)
        (linuxOutcome g syscallConnErr controlErr q)
      let final := Mealy.run (step SysInfo.toInfo) wrapped.1 calls
      ∀ w ∈ final.1 :: (wrapped.2 ++ final.2).map Report.conn,
        w.InfosFrom SysInfo.toInfo (fun s => ∃ packed, s.withoutCC = packed.unpack g ∧
          (FieldsAsIntroduced v g packed ↔
            ¬ (compareKernelVersion v ⟨4, 9, 0, ""⟩ ≥ 0 ∧
                compareKernelVersion v ⟨4, 10, 0, ""⟩ < 0) ∧
            ¬ (compareKernelVersion v ⟨6, 2, 0, ""⟩ ≥ 0 ∧
                compareKernelVersion v ⟨6, 7, 0, ""⟩ < 0))) := by
  intro g
  refine linux_infosFrom_of_complete g _ ?_ ncon hasReportStats now syscallConnErr controlErr q
    calls hcalls
  intro s hs
  obtain ⟨packed, hpacked⟩ := hs.withoutCC
  exact ⟨packed, hpacked, fieldsAsIntroduced_iff v {} packed hv⟩

theorem linux_infos_fieldsAsIntroduced_iff_6_2
    : let q : Queries := ⟨.ok {}, .ok "cubic", .ok ⟨0, 0, 0, 0⟩, .ok ⟨0, 0, 0, 0, 0⟩,
        .ok ⟨0, 0, 0, 0, 0⟩⟩
      let v : VersionInfo := ⟨6, 2, 0, ""⟩
      let g := init (.ok v)
      let wrapped := wrapConn SysInfo.toInfo ⟨true, "", ""⟩ true 1 (supported g)
        (linuxOutcome g none none q)
      let final := Mealy.run (step SysInfo.toInfo) wrapped.1 [.close 5 (linuxOutcome g none none q)]
      compareKernelVersion v ⟨2, 6, 2, ""⟩ ≥ 0 ∧
        ∀ w ∈ final.1 :: (wrapped.2 ++ final.2).map Report.conn,
          w.InfosFrom SysInfo.toInfo (fun s => ∃ packed, s.withoutCC = packed.unpack g ∧
            (FieldsAsIntroduced v g packed ↔
              ¬ (compareKernelVersion v ⟨4, 9, 0, ""⟩ ≥ 0 ∧
                  compareKernelVersion v ⟨4, 10, 0, ""⟩ < 0) ∧
              ¬ (compareKernelVersion v ⟨6, 2, 0, ""⟩ ≥ 0 ∧
                  compareKernelVersion v ⟨6, 7, 0, ""⟩ < 0))) := by
  intro q v g wrapped final
  have hv : compareKernelVersion v ⟨2, 6, 2, ""⟩ ≥ 0 := by decide
  exact ⟨hv, linux_infos_fieldsAsIntroduced_iff v hv _ _ _ _ _ _ _ outcome_close_linuxOutcome⟩

theorem linux_failed_query_at_wrap_loses_infos (g : Globals) (ncon : NetConn) (now : Int64)
    (q : Queries) (calls : List (Call SysInfo)) (htcp : ncon.isTCPConn = true)
    (hsupported : supported g = true) (hfail : q.SomeIssuedFailed)
    : let wrapped :=
        wrapConn SysInfo.toInfo ncon true now (supported g) (linuxOutcome g none none q)
      let final := Mealy.run (step SysInfo.toInfo) wrapped.1 calls
      wrapped.1.infoErr = (getTCPInfo g q).2 ∧ wrapped.1.infoErr.isSome = true ∧
        final.1.openedInfo = none ∧ final.1.closedInfo = none ∧
        ∀ rep ∈ final.2, rep.conn.closedInfo = none := by
  intro wrapped final
  obtain ⟨err, herr⟩ :=
    Option.isSome_iff_exists.1 ((getTCPInfo_error_isSome_iff hsupported q).2 hfail)
  have hwrapped : wrapped.1 =
      ({ conn := ncon, hasReportStats := true, openedAt := now, supportsTCPInfo := supported g,
         infoErr := some err } : Conn SysInfo) := by
    show (wrapConn SysInfo.toInfo ncon true now (supported g) (linuxOutcome g none none q)).1 = _
    unfold wrapConn wrapConnWithContext Conn.gatherAndReport
    simp only [Bool.not_true, Bool.false_eq_true, if_false, ne_eq, not_true_eq_false, false_and,
      Option.isSome_none, and_false]
    exact Conn.gather_of_getTCPInfo_error hsupported rfl htcp rfl rfl herr
  have hlost : wrapped.1.InfoLost := by
    rw [hwrapped]
    exact ⟨rfl, rfl⟩
  -- from there on no call stores anything
  obtain ⟨hfinal, hreports⟩ := Mealy.run_guarded_invariant (fun _ => True) Conn.InfoLost
    (fun rep : Report SysInfo => rep.conn.InfoLost)
    (fun _ c _ hw => step_infoLost SysInfo.toInfo c hw) wrapped.1 calls (fun _ _ => trivial) hlost
  have hopened : final.1.openedInfo = wrapped.1.openedInfo :=
    (run_infoKept SysInfo.toInfo wrapped.1 calls).openedInfo
  refine ⟨by rw [hwrapped, herr], hlost.1, by rw [hopened, hwrapped], hfinal.2,
    fun rep hrep => (hreports rep hrep).2⟩

theorem linux_failed_query_at_wrap_loses_infos_vegas
    : let q : Queries := ⟨.ok {}, .ok "vegas", .error (.other "protocol not available"),
        .ok ⟨0, 0, 0, 0, 0⟩, .ok ⟨0, 0, 0, 0, 0⟩⟩
      let qok : Queries := ⟨.ok {}, .ok "vegas", .ok ⟨0, 0, 0, 0⟩, .ok ⟨0, 0, 0, 0, 0⟩,
        .ok ⟨0, 0, 0, 0, 0⟩⟩
      let g := init (.ok ⟨5, 10, 0, ""⟩)
      let wrapped := wrapConn SysInfo.toInfo ⟨true, "", ""⟩ true 1 (supported g)
        (linuxOutcome g none none q)
      let final :=
        Mealy.run (step SysInfo.toInfo) wrapped.1 [.close 5 (linuxOutcome g none none qok)]
      wrapped.1.infoErr = (getTCPInfo g q).2 ∧ wrapped.1.infoErr.isSome = true ∧
        final.1.openedInfo = none ∧ final.1.closedInfo = none ∧
        ∀ rep ∈ final.2, rep.conn.closedInfo = none :=
  linux_failed_query_at_wrap_loses_infos _ _ _ _ _ rfl (by decide)
    (Or.inr ⟨⟨{}, rfl⟩, Or.inr (Or.inl ⟨rfl, _, rfl⟩)⟩)

end Linux

end Conniver
