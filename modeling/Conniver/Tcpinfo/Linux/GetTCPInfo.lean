import Conniver.Tcpinfo.Linux.Unpack

/-!
`GetTCPInfo` of `tcpinfo_linux.go`: the `TCP_INFO` query, then the congestion-control
algorithm's name, then the algorithm's own record for Vegas, BBR and DCTCP, each of which may
fail; `TCPInfoPlusCC.Unpack` decodes what was gathered. The socket queries are `getsockopt`
calls of `golang.org/x/sys/unix`, outside the repository: their outcomes are the parameters
`Queries`, and the records they return keep the fields the code reads, with the types the code
stores them at.
-/

namespace Tcpinfo.Linux

open Nullable

structure TCPVegasInfo where
  enabled : UInt32
  rttcnt : UInt32
  rtt : UInt32
  minrtt : UInt32
  deriving DecidableEq, Repr

structure TCPBBRInfo where
  bwLo : UInt32
  bwHi : UInt32
  minRtt : UInt32
  pacingGain : UInt32
  cwndGain : UInt32
  deriving DecidableEq, Repr

structure TCPDCTCPInfo where
  enabled : UInt16
  ceState : UInt16
  alpha : UInt32
  abEcn : UInt32
  abTot : UInt32
  deriving DecidableEq, Repr

-- what each `getsockopt` the function may issue returns
structure Queries where
  tcpInfo : Except Go.Error RawTCPInfo
  congestionAlgorithm : Except Go.Error String
  vegas : Except Go.Error TCPVegasInfo
  bbr : Except Go.Error TCPBBRInfo
  dctcp : Except Go.Error TCPDCTCPInfo

structure TCPInfoPlusCC where
  tcpInfo : RawTCPInfo
  ccAlg : String := ""
  ccVegas : Option TCPVegasInfo := none
  ccBBR : Option TCPBBRInfo := none
  ccDCTP : Option TCPDCTCPInfo := none

namespace SysInfo

def withVegas (s : SysInfo) (v : TCPVegasInfo) : SysInfo :=
  { s with
    ccVegasEnabled := ⟨true, v.enabled⟩
    ccVegasRTTCnt := ⟨true, v.rttcnt⟩
    ccVegasRTTMin := ⟨true, duration v.minrtt * Go.time.Microsecond⟩
    ccVegasRTT := ⟨true, duration v.rtt * Go.time.Microsecond⟩ }

def withBBR (s : SysInfo) (b : TCPBBRInfo) : SysInfo :=
  { s with
    ccBBRBwHi := ⟨true, b.bwHi⟩
    ccBBRBwLo := ⟨true, b.bwLo⟩
    ccBBRMinRTT := ⟨true, duration b.minRtt * Go.time.Microsecond⟩
    ccBBRPacingGain := ⟨true, b.pacingGain⟩
    ccBBRCWindowGain := ⟨true, b.cwndGain⟩ }

def withDCTCP (s : SysInfo) (d : TCPDCTCPInfo) : SysInfo :=
  { s with
    ccDCTCPEnabled := ⟨true, d.enabled != 0⟩
    ccDCTCPCEState := ⟨true, d.ceState⟩
    ccDCTCPAlpha := ⟨true, d.alpha⟩
    ccDCTCPABECN := ⟨true, d.abEcn⟩
    ccDCTCPABTOT := ⟨true, d.abTot⟩ }

end SysInfo

def TCPInfoPlusCC.unpack (g : Globals) (t : TCPInfoPlusCC) : SysInfo :=
  let sysInfo : SysInfo := { t.tcpInfo.unpack g with ccAlgorithm := t.ccAlg }
  match t.ccAlg == "vegas", t.ccVegas with
  | true, some v => sysInfo.withVegas v
  | _, _ =>
    match t.ccAlg == "bbr", t.ccBBR with
    | true, some b => sysInfo.withBBR b
    | _, _ =>
      match t.ccAlg == "dctcp", t.ccDCTP with
      | true, some d => sysInfo.withDCTCP d
      | _, _ => sysInfo

def errKernelTooOld : Go.Error :=
  .other "tcp_info is not available on Linux prior to kernel 2.6.2"

-- `(*SysInfo, error)`, a nil pointer being `none`
def getTCPInfo (g : Globals) (q : Queries) : Option SysInfo × Option Go.Error :=
  if !g.flags .kernelVersionIsAtLeast_2_6_2 then
    (none, some errKernelTooOld)
  else
    match q.tcpInfo with
    | .error err => (none, some err)
    | .ok tcpInfo =>
      let res : TCPInfoPlusCC := { tcpInfo }
      match q.congestionAlgorithm with
      | .error err => (some (res.unpack g), some err)
      | .ok alg =>
        let res := { res with ccAlg := alg }
        if alg = "vegas" then
          match q.vegas with
          | .error err => (some (res.unpack g), some err)
          | .ok v => (some ({ res with ccVegas := some v }.unpack g), none)
        else if alg = "bbr" then
          match q.bbr with
          | .error err => (some (res.unpack g), some err)
          | .ok b => (some ({ res with ccBBR := some b }.unpack g), none)
        else if alg = "dctcp" then
          match q.dctcp with
          | .error err => (some (res.unpack g), some err)
          | .ok d => (some ({ res with ccDCTP := some d }.unpack g), none)
        else
          (some (res.unpack g), none)

namespace SysInfo

-- the record with what `TCPInfoPlusCC.Unpack` adds to `RawTCPInfo.Unpack` cleared
def withoutCC (s : SysInfo) : SysInfo :=
  { s with
    ccAlgorithm := ""
    ccVegasEnabled := null, ccVegasRTTCnt := null, ccVegasRTT := null, ccVegasRTTMin := null
    ccBBRBwLo := null, ccBBRBwHi := null, ccBBRMinRTT := null, ccBBRPacingGain := null
    ccBBRCWindowGain := null
    ccDCTCPEnabled := null, ccDCTCPCEState := null, ccDCTCPAlpha := null, ccDCTCPABECN := null
    ccDCTCPABTOT := null }

-- whether some field of the family is valid
def vegasValid (s : SysInfo) : Bool :=
  s.ccVegasEnabled.valid || s.ccVegasRTTCnt.valid || s.ccVegasRTT.valid || s.ccVegasRTTMin.valid

def bbrValid (s : SysInfo) : Bool :=
  s.ccBBRBwLo.valid || s.ccBBRBwHi.valid || s.ccBBRMinRTT.valid || s.ccBBRPacingGain.valid ||
    s.ccBBRCWindowGain.valid

def dctcpValid (s : SysInfo) : Bool :=
  s.ccDCTCPEnabled.valid || s.ccDCTCPCEState.valid || s.ccDCTCPAlpha.valid ||
    s.ccDCTCPABECN.valid || s.ccDCTCPABTOT.valid

end SysInfo

namespace TCPInfoPlusCC

variable (g : Globals) (t : TCPInfoPlusCC)

-- the record before a family is filled in
def base : SysInfo :=
  { t.tcpInfo.unpack g with ccAlgorithm := t.ccAlg }

theorem unpack_cases
    : (∃ v, t.ccAlg = "vegas" ∧ t.ccVegas = some v ∧ t.unpack g = (base g t).withVegas v) ∨
      (∃ b, t.ccAlg = "bbr" ∧ t.ccBBR = some b ∧ t.unpack g = (base g t).withBBR b) ∨
      (∃ d, t.ccAlg = "dctcp" ∧ t.ccDCTP = some d ∧ t.unpack g = (base g t).withDCTCP d) ∨
      (¬ (t.ccAlg = "vegas" ∧ t.ccVegas.isSome) ∧ ¬ (t.ccAlg = "bbr" ∧ t.ccBBR.isSome) ∧
        ¬ (t.ccAlg = "dctcp" ∧ t.ccDCTP.isSome) ∧ t.unpack g = base g t) := by
  unfold unpack
  split
  . rename_i v hname hv
    exact Or.inl ⟨v, by simpa using hname, hv, rfl⟩
  . rename_i hnotVegas
    split
    . rename_i b hname hb
      exact Or.inr (Or.inl ⟨b, by simpa using hname, hb, rfl⟩)
    . rename_i hnotBBR
      split
      . rename_i d hname hd
        exact Or.inr (Or.inr (Or.inl ⟨d, by simpa using hname, hd, rfl⟩))
      . rename_i hnotDCTCP
        refine Or.inr (Or.inr (Or.inr ⟨?_, ?_, ?_, rfl⟩))
        . rintro ⟨hname, hsome⟩
          obtain ⟨v, hv⟩ := Option.isSome_iff_exists.1 hsome
          exact hnotVegas v (by simpa using hname) hv
        . rintro ⟨hname, hsome⟩
          obtain ⟨b, hb⟩ := Option.isSome_iff_exists.1 hsome
          exact hnotBBR b (by simpa using hname) hb
        . rintro ⟨hname, hsome⟩
          obtain ⟨d, hd⟩ := Option.isSome_iff_exists.1 hsome
          exact hnotDCTCP d (by simpa using hname) hd

theorem withoutCC_unpack : (t.unpack g).withoutCC = t.tcpInfo.unpack g := by
  rcases unpack_cases g t with ⟨v, -, -, h⟩ | ⟨b, -, -, h⟩ | ⟨d, -, -, h⟩ | ⟨-, -, -, h⟩ <;>
    rw [h] <;> rfl

theorem ccAlgorithm_unpack : (t.unpack g).ccAlgorithm = t.ccAlg := by
  rcases unpack_cases g t with ⟨v, -, -, h⟩ | ⟨b, -, -, h⟩ | ⟨d, -, -, h⟩ | ⟨-, -, -, h⟩ <;>
    rw [h] <;> rfl

theorem vegasValid_unpack
    : (t.unpack g).vegasValid = true ↔ t.ccAlg = "vegas" ∧ t.ccVegas.isSome := by
  rcases unpack_cases g t with ⟨v, ha, hv, h⟩ | ⟨b, ha, -, h⟩ | ⟨d, ha, -, h⟩ | ⟨hv, -, -, h⟩ <;>
    rw [h]
  . simp [SysInfo.withVegas, SysInfo.vegasValid, ha, hv]
  . simp [SysInfo.withBBR, SysInfo.vegasValid, base, ha]
  . simp [SysInfo.withDCTCP, SysInfo.vegasValid, base, ha]
  . simpa [SysInfo.vegasValid, base] using hv

theorem bbrValid_unpack
    : (t.unpack g).bbrValid = true ↔ t.ccAlg = "bbr" ∧ t.ccBBR.isSome := by
  rcases unpack_cases g t with ⟨v, ha, -, h⟩ | ⟨b, ha, hb, h⟩ | ⟨d, ha, -, h⟩ | ⟨-, hb, -, h⟩ <;>
    rw [h]
  . simp [SysInfo.withVegas, SysInfo.bbrValid, base, ha]
  . simp [SysInfo.withBBR, SysInfo.bbrValid, ha, hb]
  . simp [SysInfo.withDCTCP, SysInfo.bbrValid, base, ha]
  . simpa [SysInfo.bbrValid, base] using hb

theorem dctcpValid_unpack
    : (t.unpack g).dctcpValid = true ↔ t.ccAlg = "dctcp" ∧ t.ccDCTP.isSome := by
  rcases unpack_cases g t with ⟨v, ha, -, h⟩ | ⟨b, ha, -, h⟩ | ⟨d, ha, hd, h⟩ | ⟨-, -, hd, h⟩ <;>
    rw [h]
  . simp [SysInfo.withVegas, SysInfo.dctcpValid, base, ha]
  . simp [SysInfo.withBBR, SysInfo.dctcpValid, base, ha]
  . simp [SysInfo.withDCTCP, SysInfo.dctcpValid, ha, hd]
  . simpa [SysInfo.dctcpValid, base] using hd

end TCPInfoPlusCC

-- some query that `GetTCPInfo` issues fails
def Queries.SomeIssuedFailed (q : Queries) : Prop :=
  (∃ err, q.tcpInfo = .error err) ∨
    ((∃ r, q.tcpInfo = .ok r) ∧
      ((∃ err, q.congestionAlgorithm = .error err) ∨
        (q.congestionAlgorithm = .ok "vegas" ∧ ∃ err, q.vegas = .error err) ∨
        (q.congestionAlgorithm = .ok "bbr" ∧ ∃ err, q.bbr = .error err) ∨
        (q.congestionAlgorithm = .ok "dctcp" ∧ ∃ err, q.dctcp = .error err)))

-- the algorithm name `GetTCPInfo` records: the query's answer, or empty when it failed
def Queries.ccAlg (q : Queries) : String :=
  match q.congestionAlgorithm with
  | .ok alg => alg
  | .error _ => ""

section getTCPInfo

variable {g : Globals} {q : Queries} {r : RawTCPInfo}

theorem getTCPInfo_of_ok (hflag : g.flags .kernelVersionIsAtLeast_2_6_2 = true)
    (hr : q.tcpInfo = .ok r)
    : ∃ t : TCPInfoPlusCC, (getTCPInfo g q).1 = some (t.unpack g) ∧ t.tcpInfo = r ∧
        t.ccAlg = q.ccAlg ∧
        (t.ccVegas.isSome ↔ q.congestionAlgorithm = .ok "vegas" ∧ ∃ v, q.vegas = .ok v) ∧
        (t.ccBBR.isSome ↔ q.congestionAlgorithm = .ok "bbr" ∧ ∃ b, q.bbr = .ok b) ∧
        (t.ccDCTP.isSome ↔ q.congestionAlgorithm = .ok "dctcp" ∧ ∃ d, q.dctcp = .ok d) ∧
        ((getTCPInfo g q).2.isSome ↔ q.SomeIssuedFailed) := by
  have hcheck : (!g.flags .kernelVersionIsAtLeast_2_6_2) = false := by simp [hflag]
  unfold getTCPInfo Queries.ccAlg Queries.SomeIssuedFailed
  rw [hcheck, hr]
  simp only [Bool.false_eq_true, if_false, Except.ok.injEq, reduceCtorEq, exists_false,
    false_or, exists_eq', true_and]
  cases hc : q.congestionAlgorithm with
  | error err =>
    refine ⟨{ tcpInfo := r }, rfl, rfl, rfl, ?_, ?_, ?_, ?_⟩ <;> simp
  | ok alg =>
    by_cases hvegas : alg = "vegas"
    . subst hvegas
      cases hq : q.vegas with
      | error err =>
        refine ⟨{ tcpInfo := r, ccAlg := "vegas" }, by simp, rfl, rfl, ?_, ?_, ?_, ?_⟩ <;>
          simp
      | ok v =>
        refine ⟨{ tcpInfo := r, ccAlg := "vegas", ccVegas := some v }, by simp, rfl, rfl,
          ?_, ?_, ?_, ?_⟩ <;> simp
    . by_cases hbbr : alg = "bbr"
      . subst hbbr
        cases hq : q.bbr with
        | error err =>
          refine ⟨{ tcpInfo := r, ccAlg := "bbr" }, by simp, rfl, rfl, ?_, ?_, ?_, ?_⟩ <;>
            simp
        | ok b =>
          refine ⟨{ tcpInfo := r, ccAlg := "bbr", ccBBR := some b }, by simp, rfl, rfl,
            ?_, ?_, ?_, ?_⟩ <;> simp
      . by_cases hdctcp : alg = "dctcp"
        . subst hdctcp
          cases hq : q.dctcp with
          | error err =>
            refine ⟨{ tcpInfo := r, ccAlg := "dctcp" }, by simp, rfl, rfl, ?_, ?_, ?_, ?_⟩ <;>
              simp
          | ok d =>
            refine ⟨{ tcpInfo := r, ccAlg := "dctcp", ccDCTP := some d }, by simp, rfl, rfl,
              ?_, ?_, ?_, ?_⟩ <;> simp
        . refine ⟨{ tcpInfo := r, ccAlg := alg }, by simp [hvegas, hbbr, hdctcp], rfl, rfl,
            ?_, ?_, ?_, ?_⟩ <;> simp [hvegas, hbbr, hdctcp]

end getTCPInfo

theorem name_and_isSome_iff {α : Type} {t : TCPInfoPlusCC} {q : Queries} {name : String}
    {field : Option α} {query : Except Go.Error α} (halg : t.ccAlg = q.ccAlg)
    (hfield : field.isSome ↔ q.congestionAlgorithm = .ok name ∧ ∃ x, query = .ok x)
    : (t.ccAlg = name ∧ field.isSome) ↔ q.congestionAlgorithm = .ok name ∧ ∃ x, query = .ok x := by
  rw [← hfield]
  constructor
  . exact And.right
  . intro hsome
    refine ⟨?_, hsome⟩
    rw [halg, Queries.ccAlg, (hfield.1 hsome).1]

theorem getTCPInfo_partial_results (g : Globals) (q : Queries)
    (hflag : g.flags .kernelVersionIsAtLeast_2_6_2 = true)
    : ((getTCPInfo g q).1 = none ↔ ∃ err, q.tcpInfo = .error err) ∧
      (∀ r s, q.tcpInfo = .ok r → (getTCPInfo g q).1 = some s →
        s.withoutCC = r.unpack g ∧
        s.ccAlgorithm = q.ccAlg ∧
        (s.vegasValid = true ↔ q.congestionAlgorithm = .ok "vegas" ∧ ∃ v, q.vegas = .ok v) ∧
        (s.bbrValid = true ↔ q.congestionAlgorithm = .ok "bbr" ∧ ∃ b, q.bbr = .ok b) ∧
        (s.dctcpValid = true ↔ q.congestionAlgorithm = .ok "dctcp" ∧ ∃ d, q.dctcp = .ok d)) ∧
      ((getTCPInfo g q).2.isSome ↔ q.SomeIssuedFailed) := by
  have hcheck : (!g.flags .kernelVersionIsAtLeast_2_6_2) = false := by simp [hflag]
  refine ⟨?_, ?_, ?_⟩
  . cases hr : q.tcpInfo with
    | error err => simp [getTCPInfo, hcheck, hr]
    | ok r =>
      obtain ⟨t, hs, -⟩ := getTCPInfo_of_ok hflag hr
      simp [hs]
  . intro r s hr hs
    obtain ⟨t, ht, htr, halg, hvegas, hbbr, hdctcp, -⟩ := getTCPInfo_of_ok hflag hr
    rw [ht, Option.some.injEq] at hs
    subst hs
    refine ⟨?_, ?_, ?_, ?_, ?_⟩
    . rw [TCPInfoPlusCC.withoutCC_unpack, htr]
    . rw [TCPInfoPlusCC.ccAlgorithm_unpack, halg]
    . rw [TCPInfoPlusCC.vegasValid_unpack]
      exact name_and_isSome_iff halg hvegas
    . rw [TCPInfoPlusCC.bbrValid_unpack]
      exact name_and_isSome_iff halg hbbr
    . rw [TCPInfoPlusCC.dctcpValid_unpack]
      exact name_and_isSome_iff halg hdctcp
  . cases hr : q.tcpInfo with
    | error err => simp [getTCPInfo, hcheck, hr, Queries.SomeIssuedFailed]
    | ok r =>
      obtain ⟨-, -, -, -, -, -, -, herr⟩ := getTCPInfo_of_ok hflag hr
      exact herr

theorem getTCPInfo_partial_results_vegas_failed
    : (init (.ok ⟨5, 10, 0, ""⟩)).flags .kernelVersionIsAtLeast_2_6_2 = true ∧
      ((getTCPInfo (init (.ok ⟨5, 10, 0, ""⟩))
          ⟨.ok {}, .ok "vegas", .error (.other "protocol not available"), .ok ⟨0, 0, 0, 0, 0⟩,
            .ok ⟨0, 0, 0, 0, 0⟩⟩).2.isSome ↔
        Queries.SomeIssuedFailed
          ⟨.ok {}, .ok "vegas", .error (.other "protocol not available"), .ok ⟨0, 0, 0, 0, 0⟩,
            .ok ⟨0, 0, 0, 0, 0⟩⟩) :=
  ⟨by decide, (getTCPInfo_partial_results _ _ (by decide)).2.2⟩

end Tcpinfo.Linux
