import Conniver.Tcpinfo.Linux.Unpack

/-!
Which nullable fields the Linux decoder reports, against the release that added each
`tcp_info` member (the release named beside the member in `RawTCPInfo`) and the number of
bytes the kernel is asked to fill. After adaptation the flags and the size depend on the
running kernel only through its rank, the number of rows of `tcpInfoSizes` at or below it;
so the question for every kernel is a question about the fourteen ranks, which is decided.
-/

namespace Tcpinfo.Linux

open Kernel KernelVersionFlag

namespace NullableField

-- the member of `RawTCPInfo` the field is read from
def member : NullableField → Member
  | .deliveryRateAppLimited => .bitfield1
  | .fastOpenClientFail => .bitfield1
  | .pacingRate => .pacingRate
  | .maxPacingRate => .maxPacingRate
  | .bytesAcked => .bytesAcked
  | .bytesReceived => .bytesReceived
  | .segsOut => .segsOut
  | .segsIn => .segsIn
  | .notSentBytes => .notsentBytes
  | .minRTT => .minRtt
  | .dataSegsIn => .dataSegsIn
  | .dataSegsOut => .dataSegsOut
  | .deliveryRate => .deliveryRate
  | .busyTime => .busyTime
  | .rxWindowLimited => .rwndLimited
  | .txBufferLimited => .sndbufLimited
  | .delivered => .delivered
  | .deliveredCE => .deliveredCe
  | .bytesSent => .bytesSent
  | .bytesRetrans => .bytesRetrans
  | .dsackDups => .dsackDups
  | .reordSeen => .reordSeen
  | .rxOutOfOrder => .rcvOoopack
  | .txWindow => .sndWnd
  | .rxWindow => .rcvWnd
  | .rehash => .rehash
  | .totalRTO => .totalRto
  | .totalRTORecoveries => .totalRtoRecoveries
  | .totalRTOTime => .totalRtoTime

-- the release named beside the member; `bitfield1` carries two fields of two releases
def introducedIn : NullableField → VersionInfo
  | .deliveryRateAppLimited => ⟨4, 9, 0, ""⟩
  | .fastOpenClientFail => ⟨5, 5, 0, ""⟩
  | .pacingRate => ⟨3, 15, 0, ""⟩
  | .maxPacingRate => ⟨3, 15, 0, ""⟩
  | .bytesAcked => ⟨4, 1, 0, ""⟩
  | .bytesReceived => ⟨4, 1, 0, ""⟩
  | .segsOut => ⟨4, 2, 0, ""⟩
  | .segsIn => ⟨4, 2, 0, ""⟩
  | .notSentBytes => ⟨4, 6, 0, ""⟩
  | .minRTT => ⟨4, 6, 0, ""⟩
  | .dataSegsIn => ⟨4, 6, 0, ""⟩
  | .dataSegsOut => ⟨4, 6, 0, ""⟩
  | .deliveryRate => ⟨4, 9, 0, ""⟩
  | .busyTime => ⟨4, 10, 0, ""⟩
  | .rxWindowLimited => ⟨4, 10, 0, ""⟩
  | .txBufferLimited => ⟨4, 10, 0, ""⟩
  | .delivered => ⟨4, 18, 0, ""⟩
  | .deliveredCE => ⟨4, 18, 0, ""⟩
  | .bytesSent => ⟨4, 19, 0, ""⟩
  | .bytesRetrans => ⟨4, 19, 0, ""⟩
  | .dsackDups => ⟨4, 19, 0, ""⟩
  | .reordSeen => ⟨4, 19, 0, ""⟩
  | .rxOutOfOrder => ⟨5, 4, 0, ""⟩
  | .txWindow => ⟨5, 4, 0, ""⟩
  | .rxWindow => ⟨6, 2, 0, ""⟩
  | .rehash => ⟨6, 2, 0, ""⟩
  | .totalRTO => ⟨6, 7, 0, ""⟩
  | .totalRTORecoveries => ⟨6, 7, 0, ""⟩
  | .totalRTOTime => ⟨6, 7, 0, ""⟩

-- the rows of `tcpInfoSizes` that hold the field's gate and the field's release
def gateRow (F : NullableField) : Nat :=
  (tcpInfoSizes.map (·.flag)).idxOf F.gate

def introducedRow (F : NullableField) : Nat :=
  (tcpInfoSizes.map (·.version)).idxOf F.introducedIn

theorem gateRow_spec (F : NullableField)
    : ∃ h : gateRow F < tcpInfoSizes.length, tcpInfoSizes[gateRow F].flag = F.gate := by
  cases F <;> exact ⟨by decide, rfl⟩

theorem introducedRow_spec (F : NullableField)
    : ∃ h : introducedRow F < tcpInfoSizes.length,
        tcpInfoSizes[introducedRow F].version = F.introducedIn := by
  cases F <;> exact ⟨by decide, rfl⟩

end NullableField

open NullableField

/--
The README's promise about one decoded record, for a kernel at release `v`: a nullable field
is valid exactly from the release that added its member, a valid field lies within the bytes
the kernel was asked to fill, a valid field holds its member, and the map has the field's key
exactly when the field is valid.
-/
def FieldsAsIntroduced (v : VersionInfo) (g : Globals) (packed : RawTCPInfo) : Prop :=
  ∀ F : NullableField,
    (F.valid (packed.unpack g) = true ↔ compareKernelVersion v F.introducedIn ≥ 0) ∧
    (F.valid (packed.unpack g) = true → F.member.endOffset ≤ g.sizeOfRawTCPInfo) ∧
    (F.valid (packed.unpack g) = true → F.value (packed.unpack g) = F.rawValue packed) ∧
    (F.key ∈ (packed.unpack g).toMap.keys ↔ F.valid (packed.unpack g) = true)

-- the first two parts of the promise at a given rank, with the size of the rank's row
def RankAgrees (k : Nat) : Prop :=
  ∀ F ∈ NullableField.all,
    (gateRow F < k ↔ introducedRow F < k) ∧
    (gateRow F < k → ∀ row ∈ tcpInfoSizes[k - 1]?, F.member.endOffset ≤ row.size)

instance (k : Nat) : Decidable (RankAgrees k) :=
  inferInstanceAs (Decidable (∀ F ∈ NullableField.all, _))

theorem rankAgrees_iff : ∀ k ≤ 13, 1 ≤ k → (RankAgrees k ↔ k ≠ 6 ∧ k ≠ 12) := by
  decide +kernel

section adapted

variable (v : VersionInfo) (g : Globals)

theorem valid_unpack_adapted (packed : RawTCPInfo) (F : NullableField)
    : F.valid (packed.unpack (adaptToKernelVersion (.ok v) g)) = decide (gateRow F < rank v) := by
  obtain ⟨h, hflag⟩ := gateRow_spec F
  rw [valid_unpack, ← hflag, adaptToKernelVersion_flags_of_lt v g _ h]

theorem introducedIn_le_iff (F : NullableField)
    : compareKernelVersion v F.introducedIn ≥ 0 ↔ introducedRow F < rank v := by
  obtain ⟨h, hver⟩ := introducedRow_spec F
  rw [← hver, ← atLeast_iff_lt_rank v _ h]
  simp [atLeast]

theorem row_le_iff (i : Nat) (hi : i < tcpInfoSizes.length)
    : compareKernelVersion v tcpInfoSizes[i].version ≥ 0 ↔ i < rank v := by
  rw [← atLeast_iff_lt_rank v i hi]
  simp [atLeast]

theorem fieldsAsIntroduced_iff_rankAgrees (packed : RawTCPInfo) (hv : 0 < rank v)
    : FieldsAsIntroduced v (adaptToKernelVersion (.ok v) g) packed ↔ RankAgrees (rank v) := by
  have hsize := adaptToKernelVersion_sizeOfRawTCPInfo_of_rank v g hv
  -- the size the kernel is asked for is that of the row at the rank
  have hrow : ∀ row ∈ tcpInfoSizes[rank v - 1]?,
      (adaptToKernelVersion (.ok v) g).sizeOfRawTCPInfo = row.size := by
    intro row hmem
    rw [Option.mem_def] at hmem
    rw [hmem] at hsize
    exact Option.some.inj hsize
  constructor
  . intro h F _
    obtain ⟨hintro, hwithin, -, -⟩ := h F
    rw [valid_unpack_adapted, introducedIn_le_iff, decide_eq_true_iff] at hintro
    refine ⟨hintro, ?_⟩
    intro hgate row hmem
    rw [← hrow row hmem]
    apply hwithin
    rw [valid_unpack_adapted, decide_eq_true_iff]
    exact hgate
  . intro h F
    obtain ⟨hintro, hwithin⟩ := h F (mem_all F)
    refine ⟨?_, ?_, value_unpack_of_valid, SysInfo.mem_keys_toMap_iff_valid _ F⟩
    . rw [valid_unpack_adapted, introducedIn_le_iff, decide_eq_true_iff]
      exact hintro
    . intro hvalid
      rw [valid_unpack_adapted, decide_eq_true_iff] at hvalid
      have hlt : rank v - 1 < tcpInfoSizes.length := by
        have := rank_le v
        omega
      have hmem : tcpInfoSizes[rank v - 1] ∈ tcpInfoSizes[rank v - 1]? :=
        List.getElem?_eq_getElem hlt
      rw [hrow _ hmem]
      exact hwithin hvalid _ hmem

theorem rank_pos_iff : 0 < rank v ↔ compareKernelVersion v ⟨2, 6, 2, ""⟩ ≥ 0 :=
  (row_le_iff v 0 (by decide)).symm

theorem rank_eq_six_iff
    : rank v = 6 ↔
        compareKernelVersion v ⟨4, 9, 0, ""⟩ ≥ 0 ∧ compareKernelVersion v ⟨4, 10, 0, ""⟩ < 0 := by
  have h9 := row_le_iff v 5 (by decide)
  have h10 := row_le_iff v 6 (by decide)
  simp only [tcpInfoSizes, List.getElem_cons_succ, List.getElem_cons_zero] at h9 h10
  rw [← not_le, ← ge_iff_le, h9, h10]
  omega

theorem rank_eq_twelve_iff
    : rank v = 12 ↔
        compareKernelVersion v ⟨6, 2, 0, ""⟩ ≥ 0 ∧ compareKernelVersion v ⟨6, 7, 0, ""⟩ < 0 := by
  have h2 := row_le_iff v 11 (by decide)
  have h7 := row_le_iff v 12 (by decide)
  have hle := rank_le v
  simp only [tcpInfoSizes, List.getElem_cons_succ, List.getElem_cons_zero] at h2 h7 hle
  rw [← not_le, ← ge_iff_le, h2, h7]
  simp only [List.length_cons, List.length_nil] at hle
  omega

theorem fieldsAsIntroduced_iff (packed : RawTCPInfo)
    (hv : compareKernelVersion v ⟨2, 6, 2, ""⟩ ≥ 0)
    : FieldsAsIntroduced v (adaptToKernelVersion (.ok v) g) packed ↔
        ¬ (compareKernelVersion v ⟨4, 9, 0, ""⟩ ≥ 0 ∧
            compareKernelVersion v ⟨4, 10, 0, ""⟩ < 0) ∧
        ¬ (compareKernelVersion v ⟨6, 2, 0, ""⟩ ≥ 0 ∧
            compareKernelVersion v ⟨6, 7, 0, ""⟩ < 0) := by
  have hpos := (rank_pos_iff v).2 hv
  have hle : rank v ≤ 13 := rank_le v
  rw [fieldsAsIntroduced_iff_rankAgrees v g packed hpos, rankAgrees_iff (rank v) hle hpos,
    ne_eq, ne_eq, rank_eq_six_iff, rank_eq_twelve_iff]

end adapted

theorem unpack_reads_past_request_on_4_9_and_6_2 (g : Globals) (packed : RawTCPInfo)
    : (packed.unpack (adaptToKernelVersion (.ok ⟨6, 2, 0, ""⟩) g)).totalRTO.valid = true ∧
        compareKernelVersion ⟨6, 2, 0, ""⟩ NullableField.totalRTO.introducedIn < 0 ∧
        (adaptToKernelVersion (.ok ⟨6, 2, 0, ""⟩) g).sizeOfRawTCPInfo <
          Member.totalRto.endOffset ∧
      (packed.unpack (adaptToKernelVersion (.ok ⟨4, 9, 0, ""⟩) g)).minRTT.valid = true ∧
        (adaptToKernelVersion (.ok ⟨4, 9, 0, ""⟩) g).sizeOfRawTCPInfo <
          Member.minRtt.endOffset := by
  have h62 : rank ⟨6, 2, 0, ""⟩ = 12 := by decide
  have h49 : rank ⟨4, 9, 0, ""⟩ = 6 := by decide
  have hs62 := adaptToKernelVersion_sizeOfRawTCPInfo_of_rank ⟨6, 2, 0, ""⟩ g (by rw [h62]; decide)
  have hs49 := adaptToKernelVersion_sizeOfRawTCPInfo_of_rank ⟨4, 9, 0, ""⟩ g (by rw [h49]; decide)
  rw [h62] at hs62
  rw [h49] at hs49
  have hvalid62 := valid_unpack_adapted ⟨6, 2, 0, ""⟩ g packed .totalRTO
  have hvalid49 := valid_unpack_adapted ⟨4, 9, 0, ""⟩ g packed .minRTT
  rw [h62] at hvalid62
  rw [h49] at hvalid49
  refine ⟨hvalid62.trans (by decide), by decide, ?_, hvalid49.trans (by decide), ?_⟩
  . rw [Option.some.inj (hs62.trans rfl)]
    decide +kernel
  . rw [Option.some.inj (hs49.trans rfl)]
    decide +kernel

end Tcpinfo.Linux
