import Conniver.Kernel.Release
import Conniver.Lib.Scan
import Mathlib.Data.List.Nodup

/-!
Kernel version adaptation of the Linux backend (`init_linux.go`). The package keeps one
boolean per row of `tcpInfoSizes`, each naming the kernel release that added some members
of `struct tcp_info`, and the number of bytes of it to request. `adaptToKernelVersion` scans
the table from the newest row down to the first row at or below the running kernel, takes its
size, sets its flag and every flag below it, and clears the flags of the rows it passed.
-/

namespace Tcpinfo.Linux

open Kernel

inductive KernelVersionFlag where
  | kernelVersionIsAtLeast_2_6_2
  | kernelVersionIsAtLeast_3_15
  | kernelVersionIsAtLeast_4_1
  | kernelVersionIsAtLeast_4_2
  | kernelVersionIsAtLeast_4_6
  | kernelVersionIsAtLeast_4_9
  | kernelVersionIsAtLeast_4_10
  | kernelVersionIsAtLeast_4_18
  | kernelVersionIsAtLeast_4_19
  | kernelVersionIsAtLeast_5_4
  | kernelVersionIsAtLeast_5_5
  | kernelVersionIsAtLeast_6_2
  | kernelVersionIsAtLeast_6_7
  deriving DecidableEq, Repr

-- the package variables the adaptation writes, at their Go zero values
structure Globals where
  flags : KernelVersionFlag → Bool := fun _ => false
  sizeOfRawTCPInfo : Nat := 0

structure VersionedStructSize where
  version : VersionInfo
  size : Nat
  flag : KernelVersionFlag
  deriving DecidableEq, Repr

open KernelVersionFlag in
def tcpInfoSizes : List VersionedStructSize :=
  [⟨⟨2, 6, 2, ""⟩, 104, kernelVersionIsAtLeast_2_6_2⟩,
    ⟨⟨3, 15, 0, ""⟩, 120, kernelVersionIsAtLeast_3_15⟩,
    ⟨⟨4, 1, 0, ""⟩, 136, kernelVersionIsAtLeast_4_1⟩,
    ⟨⟨4, 2, 0, ""⟩, 144, kernelVersionIsAtLeast_4_2⟩,
    ⟨⟨4, 6, 0, ""⟩, 160, kernelVersionIsAtLeast_4_6⟩,
    ⟨⟨4, 9, 0, ""⟩, 148, kernelVersionIsAtLeast_4_9⟩,
    ⟨⟨4, 10, 0, ""⟩, 192, kernelVersionIsAtLeast_4_10⟩,
    ⟨⟨4, 18, 0, ""⟩, 200, kernelVersionIsAtLeast_4_18⟩,
    ⟨⟨4, 19, 0, ""⟩, 224, kernelVersionIsAtLeast_4_19⟩,
    ⟨⟨5, 4, 0, ""⟩, 232, kernelVersionIsAtLeast_5_4⟩,
    ⟨⟨5, 5, 0, ""⟩, 232, kernelVersionIsAtLeast_5_5⟩,
    ⟨⟨6, 2, 0, ""⟩, 240, kernelVersionIsAtLeast_6_2⟩,
    ⟨⟨6, 7, 0, ""⟩, 248, kernelVersionIsAtLeast_6_7⟩]

-- the inner loop: set the flag of the hit row and of every row below it
def setFlags (rows : List VersionedStructSize) (flags : KernelVersionFlag → Bool)
    : KernelVersionFlag → Bool :=
  rows.foldl (fun flags row => Function.update flags row.flag true) flags

/--
The outer loop of `adaptToKernelVersion`, over the rows from the newest down.
-/
def adaptLoop (linuxKernelVersion : VersionInfo)
    : List VersionedStructSize → Globals → Globals
  | [], g => g
  | row :: below, g =>
    if compareKernelVersion linuxKernelVersion row.version ≥ 0 then
      { g with sizeOfRawTCPInfo := row.size, flags := setFlags (row :: below) g.flags }
    else
      adaptLoop linuxKernelVersion below { g with flags := Function.update g.flags row.flag false }

-- `kernelVersion` is what `kernel.GetKernelVersion` returned
def adaptToKernelVersion (kernelVersion : Except Go.Error VersionInfo) (g : Globals) : Globals :=
  let linuxKernelVersion : VersionInfo :=
    match kernelVersion with
    | .ok v => v
    | .error _ => ⟨2, 6, 2, ""⟩
  adaptLoop linuxKernelVersion tcpInfoSizes.reverse g

-- the package's `init`, from the zero values
def init (kernelVersion : Except Go.Error VersionInfo) : Globals :=
  adaptToKernelVersion kernelVersion {}

def supported (g : Globals) : Bool :=
  g.flags .kernelVersionIsAtLeast_2_6_2

theorem setFlags_apply (rows : List VersionedStructSize) (flags : KernelVersionFlag → Bool)
    (f : KernelVersionFlag)
    : setFlags rows flags f = if f ∈ rows.map (·.flag) then true else flags f := by
  induction rows generalizing flags with
  | nil => simp [setFlags]
  | cons row rows ih =>
    unfold setFlags at ih ⊢
    rw [List.foldl_cons, ih]
    by_cases hf : f = row.flag
    . simp [hf]
    . simp [hf]

section adapt

variable (v : VersionInfo)

-- the row test of the scan: the running kernel is at or above the row's release
def atLeast (row : VersionedStructSize) : Bool :=
  decide (0 ≤ compareKernelVersion v row.version)

theorem adaptLoop_flags (rows : List VersionedStructSize) (g : Globals) (f : KernelVersionFlag)
    : (adaptLoop v rows g).flags f =
        if f ∈ (rows.dropWhile (fun row => !atLeast v row)).map (·.flag) then true
        else if f ∈ (rows.takeWhile (fun row => !atLeast v row)).map (·.flag) then false
        else g.flags f := by
  induction rows generalizing g with
  | nil => simp [adaptLoop]
  | cons row below ih =>
    by_cases hrow : 0 ≤ compareKernelVersion v row.version
    . have hat : atLeast v row = true := by simpa [atLeast] using hrow
      simp only [adaptLoop, ge_iff_le, hrow, if_true, List.dropWhile_cons, List.takeWhile_cons,
        hat, Bool.not_true]
      rw [setFlags_apply]
      simp
    . have hat : atLeast v row = false := by simpa [atLeast] using hrow
      simp only [adaptLoop, ge_iff_le, hrow, if_false, List.dropWhile_cons, List.takeWhile_cons,
        hat, Bool.not_false]
      rw [ih]
      by_cases hf : f = row.flag
      . subst hf
        simp
      . simp [hf]

theorem adaptLoop_sizeOfRawTCPInfo (rows : List VersionedStructSize) (g : Globals)
    : (adaptLoop v rows g).sizeOfRawTCPInfo =
        ((rows.find? (atLeast v)).map (·.size)).getD g.sizeOfRawTCPInfo := by
  induction rows generalizing g with
  | nil => simp [adaptLoop]
  | cons row below ih =>
    by_cases hrow : 0 ≤ compareKernelVersion v row.version
    . have hat : atLeast v row = true := by simpa [atLeast] using hrow
      simp [adaptLoop, hrow, hat]
    . have hat : atLeast v row = false := by simpa [atLeast] using hrow
      simp only [adaptLoop, ge_iff_le, hrow, if_false, List.find?_cons, hat]
      rw [ih]

theorem tcpInfoSizes_sorted
    : tcpInfoSizes.Pairwise (fun a b => compareKernelVersion a.version b.version < 0) := by
  decide

theorem tcpInfoSizes_flags_nodup : (tcpInfoSizes.map (·.flag)).Nodup := by
  decide

theorem atLeast_of_before {a b : VersionedStructSize}
    (hab : compareKernelVersion a.version b.version < 0) (hb : atLeast v b = true)
    : atLeast v a = true := by
  simp only [atLeast, decide_eq_true_eq, compareKernelVersion_nonneg_iff] at hb ⊢
  rw [compareKernelVersion_neg_iff] at hab
  exact le_of_lt (lt_of_lt_of_le hab hb)

theorem atLeast_iff_key_le (row : VersionedStructSize)
    : atLeast v row = true ↔ row.version.key ≤ v.key := by
  rw [atLeast, decide_eq_true_iff, compareKernelVersion_nonneg_iff]

theorem tcpInfoSizes_downward
    : tcpInfoSizes.Pairwise (fun a b => atLeast v b → atLeast v a) := by
  apply List.Pairwise.imp _ tcpInfoSizes_sorted
  intro a b hab hb
  exact atLeast_of_before v hab hb

theorem tcpInfoSizes_reverse_upward
    : tcpInfoSizes.reverse.Pairwise (fun a b => atLeast v a → atLeast v b) := by
  rw [List.pairwise_reverse]
  exact tcpInfoSizes_downward v

theorem adaptToKernelVersion_flags (g : Globals) (row : VersionedStructSize)
    (hrow : row ∈ tcpInfoSizes)
    : (adaptToKernelVersion (.ok v) g).flags row.flag = atLeast v row := by
  have hup := tcpInfoSizes_reverse_upward v
  unfold adaptToKernelVersion
  dsimp only
  rw [adaptLoop_flags, Scan.dropWhile_not_eq_filter _ hup, Scan.takeWhile_not_eq_filter _ hup]
  -- two rows with one flag are one row
  have hinj := List.inj_on_of_nodup_map tcpInfoSizes_flags_nodup
  cases hat : atLeast v row
  . have hnot : row.flag ∉ (tcpInfoSizes.reverse.filter (atLeast v)).map (·.flag) := by
      simp only [List.mem_map, List.mem_filter, List.mem_reverse, not_exists, not_and]
      intro other hother heq
      rw [hinj hother.1 hrow heq, hat] at hother
      simp at hother
    have hmem : row.flag ∈ (tcpInfoSizes.reverse.filter (fun row => !atLeast v row)).map (·.flag) := by
      simp only [List.mem_map, List.mem_filter, List.mem_reverse]
      exact ⟨row, ⟨hrow, by simp [hat]⟩, rfl⟩
    rw [if_neg hnot, if_pos hmem]
  . have hmem : row.flag ∈ (tcpInfoSizes.reverse.filter (atLeast v)).map (·.flag) := by
      simp only [List.mem_map, List.mem_filter, List.mem_reverse]
      exact ⟨row, ⟨hrow, hat⟩, rfl⟩
    rw [if_pos hmem]

theorem adaptToKernelVersion_sizeOfRawTCPInfo (g : Globals)
    : (adaptToKernelVersion (.ok v) g).sizeOfRawTCPInfo =
        (((tcpInfoSizes.filter (atLeast v)).getLast?).map (·.size)).getD g.sizeOfRawTCPInfo := by
  unfold adaptToKernelVersion
  dsimp only
  rw [adaptLoop_sizeOfRawTCPInfo, List.getLast?_filter]

-- how many rows the kernel is at or above; they are the oldest rows of the table
def rank : Nat :=
  (tcpInfoSizes.filter (atLeast v)).length

theorem atLeast_iff_lt_rank (i : Nat) (hi : i < tcpInfoSizes.length)
    : atLeast v tcpInfoSizes[i] = true ↔ i < rank v :=
  Scan.pass_iff_lt_length_filter _ (tcpInfoSizes_downward v) i hi

theorem rank_le : rank v ≤ tcpInfoSizes.length :=
  List.length_filter_le _ _

theorem adaptToKernelVersion_flags_of_lt (g : Globals) (i : Nat) (hi : i < tcpInfoSizes.length)
    : (adaptToKernelVersion (.ok v) g).flags tcpInfoSizes[i].flag = decide (i < rank v) := by
  rw [adaptToKernelVersion_flags v g _ (List.getElem_mem hi)]
  have := atLeast_iff_lt_rank v i hi
  by_cases hlt : i < rank v <;> simp_all

theorem adaptToKernelVersion_sizeOfRawTCPInfo_of_rank (g : Globals) (h : 0 < rank v)
    : some (adaptToKernelVersion (.ok v) g).sizeOfRawTCPInfo =
        tcpInfoSizes[rank v - 1]?.map (·.size) := by
  have hle := rank_le v
  have htake : tcpInfoSizes.filter (atLeast v) = tcpInfoSizes.take (rank v) :=
    Scan.filter_eq_take _ (tcpInfoSizes_downward v)
  have hsome : tcpInfoSizes[rank v - 1]? = some tcpInfoSizes[rank v - 1] :=
    List.getElem?_eq_getElem (by omega)
  rw [adaptToKernelVersion_sizeOfRawTCPInfo, htake, List.getLast?_take]
  simp [Nat.pos_iff_ne_zero.1 h, hsome]

theorem adaptToKernelVersion_sizeOfRawTCPInfo_of_atLeast (g : Globals)
    (hv : compareKernelVersion v ⟨2, 6, 2, ""⟩ ≥ 0)
    : some (adaptToKernelVersion (.ok v) g).sizeOfRawTCPInfo =
        ((tcpInfoSizes.filter (atLeast v)).getLast?).map (·.size) := by
  rw [adaptToKernelVersion_sizeOfRawTCPInfo]
  -- the oldest row passes, so some row is the last one that does
  have hfirst : ⟨⟨2, 6, 2, ""⟩, 104, .kernelVersionIsAtLeast_2_6_2⟩ ∈
      tcpInfoSizes.filter (atLeast v) := by
    rw [List.mem_filter]
    exact ⟨by decide, by simpa [atLeast] using hv⟩
  cases hlast : (tcpInfoSizes.filter (atLeast v)).getLast? with
  | none =>
    rw [List.getLast?_eq_none_iff] at hlast
    simp [hlast] at hfirst
  | some last => rfl

end adapt

theorem adaptToKernelVersion_sets_flags (v : VersionInfo) (g : Globals)
    : tcpInfoSizes.Pairwise (fun a b => compareKernelVersion a.version b.version < 0) ∧
      (∀ row ∈ tcpInfoSizes,
        (adaptToKernelVersion (.ok v) g).flags row.flag = true ↔
          compareKernelVersion v row.version ≥ 0) ∧
      (compareKernelVersion v ⟨2, 6, 2, ""⟩ ≥ 0 →
        some (adaptToKernelVersion (.ok v) g).sizeOfRawTCPInfo =
          ((tcpInfoSizes.filter (fun row => compareKernelVersion v row.version ≥ 0)).getLast?).map
            (·.size)) := by
  refine ⟨tcpInfoSizes_sorted, ?_, ?_⟩
  . intro row hrow
    rw [adaptToKernelVersion_flags v g row hrow]
    simp [atLeast]
  . exact adaptToKernelVersion_sizeOfRawTCPInfo_of_atLeast v g

theorem adaptToKernelVersion_sets_flags_4_14
    : some (adaptToKernelVersion (.ok ⟨4, 14, 3, "-arch1"⟩) {}).sizeOfRawTCPInfo = some 192 := by
  rw [(adaptToKernelVersion_sets_flags ⟨4, 14, 3, "-arch1"⟩ {}).2.2 (by decide)]
  decide

theorem adaptToKernelVersion_sets_flags_key (v : VersionInfo) (g : Globals)
    : tcpInfoSizes.Pairwise (fun a b => a.version.key < b.version.key) ∧
      (∀ row ∈ tcpInfoSizes,
        (adaptToKernelVersion (.ok v) g).flags row.flag = true ↔ row.version.key ≤ v.key) ∧
      (VersionInfo.key ⟨2, 6, 2, ""⟩ ≤ v.key →
        some (adaptToKernelVersion (.ok v) g).sizeOfRawTCPInfo =
          ((tcpInfoSizes.filter (fun row => row.version.key ≤ v.key)).getLast?).map (·.size)) := by
  refine ⟨tcpInfoSizes_sorted.imp (compareKernelVersion_neg_iff _ _).1, ?_, ?_⟩
  . intro row hrow
    rw [adaptToKernelVersion_flags v g row hrow, atLeast_iff_key_le]
  . intro hv
    have hfilter : tcpInfoSizes.filter (fun row => row.version.key ≤ v.key) =
        tcpInfoSizes.filter (atLeast v) :=
      List.filter_congr (fun row _ => by rw [Bool.eq_iff_iff, atLeast_iff_key_le, decide_eq_true_iff])
    rw [hfilter]
    exact adaptToKernelVersion_sizeOfRawTCPInfo_of_atLeast v g
      ((compareKernelVersion_nonneg_iff _ _).2 hv)

end Tcpinfo.Linux
