import Conniver.Wrap.Conn
import Conniver.Lib.Machine
import Conniver.Lib.Events

/-!
The reporting protocol of the wrapper over runs of calls. The wrap reports `Opened` once,
with the state it leaves. Every later report is a `Closed` one, made by a `Close` call after
it stamped `ClosedAt`, and no call makes more than one. `OpenedInfo` is what the wrap
gathered. `ClosedInfo` changes only in `Close` calls. Once `InfoErr` is set it stays, and so
does `ClosedInfo`; once `ClosedInfo` is set it stays, and so does `InfoErr`, and no call
reports again.

The guard against a second report is `ClosedInfo != nil`, so a connection that never gets
its closing information, such as one that is not a `*net.TCPConn`, reports at every `Close`.
`Close` stamps `ClosedAt` every time: after a run it holds the clock value of the last
`Close`.
-/

namespace Conniver

open Tcpinfo

variable {Sys : Type} {toInfo : Sys → Info Sys}

namespace Conn

variable {w : Conn Sys} {state now : Int64} {o : GatherOutcome Sys}

theorem gather_closedAt : (w.gather toInfo state o).closedAt = w.closedAt := by
  obtain ⟨infoErr, openedInfo, closedInfo, h⟩ := gather_frame toInfo state o w
  rw [h]

theorem gather_closed_openedInfo : (w.gather toInfo closed o).openedInfo = w.openedInfo := by
  rcases gather_cases toInfo closed o w with h | ⟨-, err, h⟩ | ⟨-, hop, s, h⟩ | ⟨-, -, s, h⟩
  . rw [h]
  . rw [h]
  . exact absurd hop (by decide)
  . rw [h]

theorem gather_of_not_isTCPConn (h : w.conn.isTCPConn = false) : w.gather toInfo state o = w := by
  unfold gather
  split
  . rfl
  . rw [if_pos (by simp [h])]

theorem close_cases (toInfo : Sys → Info Sys) (now : Int64) (o : GatherOutcome Sys)
    (w : Conn Sys)
    : w.close toInfo now o = ({ w with closedAt := now }, []) ∨
      (w.hasReportStats = true ∧ w.closedInfo = none ∧
        w.close toInfo now o =
          ({ w with closedAt := now }.gather toInfo closed o,
            [⟨closed, { w with closedAt := now }.gather toInfo closed o⟩])) := by
  unfold close
  rcases gatherAndReport_cases toInfo closed o { w with closedAt := now } with
    h | ⟨hcb, hstate, h⟩
  . exact Or.inl h
  . refine Or.inr ⟨hcb, ?_, h⟩
    rcases hstate with ⟨hop, -⟩ | ⟨-, hcl⟩
    . exact absurd hop (by decide)
    . exact hcl

theorem close_of_closedInfo_none (hcb : w.hasReportStats = true) (hcl : w.closedInfo = none)
    : w.close toInfo now o =
        ({ w with closedAt := now }.gather toInfo closed o,
          [⟨closed, { w with closedAt := now }.gather toInfo closed o⟩]) := by
  unfold close gatherAndReport
  have hop : closed ≠ opened := by decide
  simp [hcb, hcl, hop]

end Conn

variable (toInfo) in
-- what every call keeps of the gathered information
structure InfoKept (w w' : Conn Sys) : Prop where
  openedInfo : w'.openedInfo = w.openedInfo
  infoErr : w.infoErr.isSome = true → w'.infoErr = w.infoErr ∧ w'.closedInfo = w.closedInfo
  closedInfo : w.closedInfo.isSome = true → w'.closedInfo = w.closedInfo ∧ w'.infoErr = w.infoErr

namespace InfoKept

variable {w w' w'' : Conn Sys}

theorem refl (w : Conn Sys) : InfoKept w w :=
  ⟨rfl, fun _ => ⟨rfl, rfl⟩, fun _ => ⟨rfl, rfl⟩⟩

theorem trans (h₁ : InfoKept w w') (h₂ : InfoKept w' w'') : InfoKept w w'' where
  openedInfo := h₂.openedInfo.trans h₁.openedInfo
  infoErr := fun h => by
    obtain ⟨he₁, hc₁⟩ := h₁.infoErr h
    obtain ⟨he₂, hc₂⟩ := h₂.infoErr (he₁ ▸ h)
    exact ⟨he₂.trans he₁, hc₂.trans hc₁⟩
  closedInfo := fun h => by
    obtain ⟨hc₁, he₁⟩ := h₁.closedInfo h
    obtain ⟨hc₂, he₂⟩ := h₂.closedInfo (hc₁ ▸ h)
    exact ⟨hc₂.trans hc₁, he₂.trans he₁⟩

theorem of_eq (ho : w'.openedInfo = w.openedInfo) (he : w'.infoErr = w.infoErr)
    (hc : w'.closedInfo = w.closedInfo) : InfoKept w w' :=
  ⟨ho, fun _ => ⟨he, hc⟩, fun _ => ⟨hc, he⟩⟩

end InfoKept

section step

variable (w : Conn Sys) (c : Call Sys)

theorem step_infoKept : InfoKept w (step toInfo w c).1 := by
  cases c with
  | read n err now => rw [step, Conn.read_eq]; exact InfoKept.of_eq rfl rfl rfl
  | write n err now => rw [step, Conn.write_eq]; exact InfoKept.of_eq rfl rfl rfl
  | setReconnects k => exact InfoKept.of_eq rfl rfl rfl
  | warnings => exact InfoKept.refl w
  | toMap => exact InfoKept.refl w
  | close now o =>
    rw [step]
    rcases Conn.close_cases toInfo now o w with
      h | ⟨-, hcl, h⟩ <;> rw [h]
    . exact InfoKept.of_eq rfl rfl rfl
    . -- the gathering runs only while `ClosedInfo` is missing, and stores nothing once
      -- `InfoErr` is set
      refine ⟨Conn.gather_closed_openedInfo, fun he => ?_, fun hc => by simp [hcl] at hc⟩
      rw [Conn.gather_of_infoErr (w := { w with closedAt := now }) he]
      exact ⟨rfl, rfl⟩

theorem step_reports
    : (step toInfo w c).2 = [] ∨
      ∃ now o, c = .close now o ∧ w.closedInfo = none ∧
        (step toInfo w c).2 = [⟨closed, (step toInfo w c).1⟩] ∧
        (step toInfo w c).1.closedAt = now := by
  cases c with
  | close now o =>
    rw [step]
    rcases Conn.close_cases toInfo now o w with
      h | ⟨-, hcl, h⟩ <;> rw [h]
    . exact Or.inl rfl
    . exact Or.inr ⟨now, o, rfl, hcl, rfl, Conn.gather_closedAt⟩
  | _ => exact Or.inl rfl

theorem step_closedInfo_of_not_isClose (hc : c.isClose = false)
    : (step toInfo w c).1.closedInfo = w.closedInfo := by
  cases c with
  | read n err now => rw [step, Conn.read_eq]
  | write n err now => rw [step, Conn.write_eq]
  | close now o => simp [Call.isClose] at hc
  | _ => rfl

end step

section run

variable (w : Conn Sys) (calls : List (Call Sys))

variable (toInfo) in
theorem run_infoKept : InfoKept w (Mealy.run (step toInfo) w calls).1 :=
  Mealy.run_rel InfoKept InfoKept.refl (fun _ _ _ => InfoKept.trans) step_infoKept w calls

theorem mem_run_reports {rep : Report Sys} (h : rep ∈ (Mealy.run (step toInfo) w calls).2)
    : rep.state = closed ∧ ∃ pre t g post, calls = pre ++ Call.close t g :: post ∧
        rep ∈ (step toInfo (Mealy.run (step toInfo) w pre).1 (.close t g)).2 ∧
        rep.conn.closedAt = t := by
  obtain ⟨pre, c, post, rfl, hmem⟩ := Mealy.mem_run_outputs h
  rcases step_reports (Mealy.run (step toInfo) w pre).1 c with h0 | ⟨t, g, rfl, -, hr, hat⟩
  . rw [h0] at hmem
    simp at hmem
  . refine ⟨?_, pre, t, g, post, rfl, hmem, ?_⟩
    . rw [hr, List.mem_singleton] at hmem
      rw [hmem]
    . rw [hr, List.mem_singleton] at hmem
      rw [hmem, hat]

theorem length_run_reports_le
    : (Mealy.run (step toInfo) w calls).2.length ≤ calls.countP Call.isClose := by
  apply Mealy.length_run_outputs_le_countP
  intro w c
  rcases step_reports w c with h0 | ⟨now, o, rfl, -, hr, -⟩
  . rw [h0]
    simp
  . rw [hr]
    simp [Call.isClose]

theorem run_reports_of_closedInfo (h : w.closedInfo.isSome = true)
    : (Mealy.run (step toInfo) w calls).2 = [] := by
  rw [List.eq_nil_iff_forall_not_mem]
  intro rep hrep
  obtain ⟨pre, c, post, rfl, hmem⟩ := Mealy.mem_run_outputs hrep
  have hkept := (run_infoKept toInfo w pre).closedInfo h
  rcases step_reports (Mealy.run (step toInfo) w pre).1 c with h0 | ⟨now, o, -, hcl, -⟩
  . rw [h0] at hmem
    simp at hmem
  . rw [hkept.1] at hcl
    simp [hcl] at h

theorem run_closedInfo_of_not_isClose (h : ∀ c ∈ calls, c.isClose = false)
    : (Mealy.run (step toInfo) w calls).1.closedInfo = w.closedInfo := by
  induction calls generalizing w with
  | nil => rfl
  | cons c calls ih =>
    rw [Mealy.run_cons, ih _ (fun c' hc' => h c' (List.mem_cons_of_mem c hc'))]
    exact step_closedInfo_of_not_isClose w c (h c List.mem_cons_self)

theorem length_run_reports_of_not_isTCPConn (hcb : w.hasReportStats = true)
    (htcp : w.conn.isTCPConn = false) (hcl : w.closedInfo = none)
    : (Mealy.run (step toInfo) w calls).2.length = calls.countP Call.isClose := by
  induction calls generalizing w with
  | nil => rfl
  | cons c calls ih =>
    rw [Mealy.run_cons, List.length_append, List.countP_cons]
    have hstep : (step toInfo w c).1.hasReportStats = true ∧
        (step toInfo w c).1.conn.isTCPConn = false ∧ (step toInfo w c).1.closedInfo = none ∧
        (step toInfo w c).2.length = if c.isClose then 1 else 0 := by
      cases c with
      | read n err now => rw [step, Conn.read_eq]; exact ⟨hcb, htcp, hcl, rfl⟩
      | write n err now => rw [step, Conn.write_eq]; exact ⟨hcb, htcp, hcl, rfl⟩
      | close now o =>
        rw [step, Conn.close_of_closedInfo_none hcb hcl,
          Conn.gather_of_not_isTCPConn (w := { w with closedAt := now }) htcp]
        exact ⟨hcb, htcp, hcl, rfl⟩
      | setReconnects k => exact ⟨hcb, htcp, hcl, rfl⟩
      | warnings => exact ⟨hcb, htcp, hcl, rfl⟩
      | toMap => exact ⟨hcb, htcp, hcl, rfl⟩
    obtain ⟨hcb', htcp', hcl', hlen⟩ := hstep
    rw [ih _ hcb' htcp' hcl', hlen]
    omega

theorem length_run_reports_of_not_isTCPConn_closed_twice
    : let toInfo : Unit → Info Unit := fun s => { sys := s }
      let o : GatherOutcome Unit := { getTCPInfo := (some (), none) }
      let wrapped := (wrapConn toInfo ⟨false, "", ""⟩ true 1 true o).1
      wrapped.hasReportStats = true ∧ wrapped.conn.isTCPConn = false ∧
        wrapped.closedInfo = none ∧
        (Mealy.run (step toInfo) wrapped [.close 2 o, .close 3 o]).2.length = 2 := by
  intro toInfo o wrapped
  refine ⟨rfl, rfl, rfl, ?_⟩
  rw [length_run_reports_of_not_isTCPConn wrapped _ rfl rfl rfl]
  rfl

end run

section wrap

variable (ncon : NetConn) (now : Int64) (supported : Bool) (o : GatherOutcome Sys)

theorem wrapConn_reports
    : (wrapConn toInfo ncon true now supported o).2 =
        [⟨opened, (wrapConn toInfo ncon true now supported o).1⟩] := by
  unfold wrapConn wrapConnWithContext Conn.gatherAndReport
  simp

theorem wrapConn_closedInfo : (wrapConn toInfo ncon true now supported o).1.closedInfo = none := by
  unfold wrapConn wrapConnWithContext Conn.gatherAndReport
  simp only [Bool.not_true, Bool.false_eq_true, if_false, ne_eq, not_true_eq_false, false_and,
    Option.isSome_none, and_false]
  -- an opening gathering never stores the closing information
  rcases Conn.gather_cases toInfo opened o
    ({ conn := ncon, hasReportStats := true, openedAt := now, supportsTCPInfo := supported } :
      Conn Sys) with h | ⟨-, err, h⟩ | ⟨-, -, s, h⟩ | ⟨-, hop, s, h⟩
  . rw [h]
  . rw [h]
  . rw [h]
  . exact absurd rfl hop

theorem wrapConn_reporting_protocol (calls : List (Call Sys))
    : let wrapped := wrapConn toInfo ncon true now supported o
      let final := Mealy.run (step toInfo) wrapped.1 calls
      wrapped.2 = [⟨opened, wrapped.1⟩] ∧
      (∀ rep ∈ final.2, rep.state = closed ∧
        ∃ pre t g post, calls = pre ++ Call.close t g :: post ∧
          rep ∈ (step toInfo (Mealy.run (step toInfo) wrapped.1 pre).1 (.close t g)).2 ∧
          rep.conn.closedAt = t) ∧
      final.2.length ≤ calls.countP Call.isClose ∧
      final.1.openedInfo = wrapped.1.openedInfo ∧
      wrapped.1.closedInfo = none ∧
      ∀ pre post, calls = pre ++ post →
        let mid := (Mealy.run (step toInfo) wrapped.1 pre).1
        let rest := Mealy.run (step toInfo) mid post
        ((∀ c ∈ post, c.isClose = false) → rest.1.closedInfo = mid.closedInfo) ∧
        (mid.infoErr.isSome = true →
          rest.1.infoErr = mid.infoErr ∧ rest.1.closedInfo = mid.closedInfo) ∧
        (mid.closedInfo.isSome = true →
          rest.1.closedInfo = mid.closedInfo ∧ rest.1.infoErr = mid.infoErr ∧ rest.2 = []) := by
  intro wrapped final
  refine ⟨wrapConn_reports ncon now supported o, fun rep h => mem_run_reports wrapped.1 calls h,
    length_run_reports_le wrapped.1 calls, (run_infoKept toInfo wrapped.1 calls).openedInfo,
    wrapConn_closedInfo ncon now supported o, ?_⟩
  intro pre post _ mid rest
  have hkept := run_infoKept toInfo mid post
  refine ⟨run_closedInfo_of_not_isClose mid post, hkept.infoErr, fun h => ?_⟩
  exact ⟨(hkept.closedInfo h).1, (hkept.closedInfo h).2, run_reports_of_closedInfo mid post h⟩

end wrap

theorem close_again_restamps_closedAt
    : let toInfo : Unit → Info Unit := fun s => { sys := s }
      let o : GatherOutcome Unit := { getTCPInfo := (some (), none) }
      let wrapped := wrapConn toInfo ⟨true, "", ""⟩ true 1 true o
      (Mealy.run (step toInfo) wrapped.1 [.close 5 o]).1.closedInfo.isSome = true ∧
      (Mealy.run (step toInfo) wrapped.1 [.close 5 o]).1.closedAt = 5 ∧
      (Mealy.run (step toInfo) wrapped.1 [.close 5 o, .close 7 o]).1.closedAt = 7 := by
  intro toInfo o wrapped
  exact ⟨rfl, rfl, rfl⟩

end Conniver
