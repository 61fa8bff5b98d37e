import Conniver.Go.Basic
import Conniver.Go.Fmt
import Mathlib.Data.Prod.Lex

/-!
Kernel versions, from `pkg/kernel/kernel.go`: `VersionInfo`, its `String` method and
`CompareKernelVersion`. What a version is compared by is its numeric part ordered
lexicographically, `VersionInfo.key`; the flavor takes no part. `compareKernelVersion`
computes that order.
-/

namespace Kernel

/--
`VersionInfo` holds information about the kernel, e.g. `4.1.2-generic` is
`⟨4, 1, 2, "-generic"⟩`. Go's `int` is `int64` on the platforms modelled.
-/
structure VersionInfo where
  kernel : Int64
  major : Int64
  minor : Int64
  flavor : String
  deriving DecidableEq, Repr

namespace VersionInfo

def string (k : VersionInfo) : String :=
  Go.fmt.formatInt k.kernel ++ "." ++ Go.fmt.formatInt k.major ++ "." ++
    Go.fmt.formatInt k.minor ++ k.flavor

def key (v : VersionInfo) : Int ×ₗ (Int ×ₗ Int) :=
  toLex (v.kernel.toInt, toLex (v.major.toInt, v.minor.toInt))

end VersionInfo

def compareKernelVersion (a b : VersionInfo) : Int :=
  if a.kernel < b.kernel then -1
  else if a.kernel > b.kernel then 1
  else if a.major < b.major then -1
  else if a.major > b.major then 1
  else if a.minor < b.minor then -1
  else if a.minor > b.minor then 1
  else 0

theorem key_le_key_iff {a b : VersionInfo} :
    a.key ≤ b.key ↔
      a.kernel.toInt < b.kernel.toInt ∨
        a.kernel.toInt = b.kernel.toInt ∧
          (a.major.toInt < b.major.toInt ∨
            a.major.toInt = b.major.toInt ∧ a.minor.toInt ≤ b.minor.toInt) := by
  simp only [VersionInfo.key, Prod.Lex.toLex_le_toLex]

theorem compareKernelVersion_nonneg_iff (a b : VersionInfo) :
    0 ≤ compareKernelVersion a b ↔ b.key ≤ a.key := by
  rw [key_le_key_iff]
  unfold compareKernelVersion
  simp only [gt_iff_lt, Int64.lt_iff_toInt_lt]
  split_ifs <;> omega

theorem compareKernelVersion_neg_iff (a b : VersionInfo) :
    compareKernelVersion a b < 0 ↔ a.key < b.key := by
  rw [← not_le, ← not_le, compareKernelVersion_nonneg_iff]

end Kernel
