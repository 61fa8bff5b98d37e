import Conniver.Go.Basic
import Conniver.Go.Fmt
import Conniver.Osversion
import Conniver.Lib.Word

/-!
The kernel version on Windows (`pkg/kernel/kernel_windows.go`). `GetKernelVersion` reads the
`BuildLabEx` string from the registry and splits the word `windows.GetVersion()` returns into
the major version (low byte), the minor version (next byte) and the build (high half). It
returns the record it has filled so far with every error. The word has the layout that
`osversion.Get` packs into `OSVersion.Version`, so the two packages agree: splitting the
word `Get` packs gives back the fields `Get` stores, as long as the major and the minor
version fit in a byte.
-/

namespace Kernel.Windows

structure VersionInfo where
  kvi : String
  major : Int64
  minor : Int64
  build : Int64
  deriving DecidableEq, Repr

-- `fmt.Sprintf("%d.%d %d (%s)", k.major, k.minor, k.build, k.kvi)`
def VersionInfo.string (k : VersionInfo) : String :=
  Go.fmt.formatInt k.major ++ "." ++ Go.fmt.formatInt k.minor ++ " " ++ Go.fmt.formatInt k.build ++
    " (" ++ k.kvi ++ ")"

-- `GetKernelVersion`, from the results of `registry.OpenKey`, of reading `BuildLabEx` and of
-- `windows.GetVersion()`
def getKernelVersion (openKey : Option Go.Error) (buildLabEx : Except Go.Error String)
    (getVersion : Except Go.Error UInt32) : VersionInfo × Option Go.Error :=
  let kvi : VersionInfo := ⟨"Unknown", 0, 0, 0⟩
  match openKey with
  | some err => (kvi, some err)
  | none =>
    match buildLabEx with
    | .error err => (kvi, some err)
    | .ok blex =>
      let kvi := { kvi with kvi := blex }
      match getVersion with
      | .error err => (kvi, some err)
      | .ok dwVersion =>
        ({ kvi with
            major := Int64.ofNat (dwVersion &&& 0xFF).toNat
            minor := Int64.ofNat ((dwVersion &&& 0xFF00) >>> 8).toNat
            build := Int64.ofNat ((dwVersion &&& 0xFFFF0000) >>> 16).toNat }, none)

open Osversion in
theorem getKernelVersion_get_version (blex : String) (v : OsVersionInfoEx)
    (hmajor : v.majorVersion.toNat < 2 ^ 8) (hminor : v.minorVersion.toNat < 2 ^ 8)
    : getKernelVersion none (.ok blex) (.ok (get v).version) =
        (⟨blex, Int64.ofNat (get v).majorVersion.toNat, Int64.ofNat (get v).minorVersion.toNat,
          Int64.ofNat (get v).build.toNat⟩, none) := by
  have hword : (get v).version.toNat =
      v.buildNumber.toNat % 2 ^ 16 * 2 ^ 16 + v.minorVersion.toNat * 2 ^ 8 +
        v.majorVersion.toNat :=
    Word.toNat_pack v.buildNumber v.minorVersion v.majorVersion hminor hmajor
  have hmaj : ((get v).version &&& 0xFF).toNat = (get v).majorVersion.toNat := by
    rw [Word.toNat_and_0xFF, hword]
    show _ = v.majorVersion.toUInt8.toNat
    rw [UInt32.toNat_toUInt8]
    omega
  have hmin : (((get v).version &&& 0xFF00) >>> 8).toNat = (get v).minorVersion.toNat := by
    rw [Word.toNat_and_0xFF00_shiftRight, hword]
    show _ = v.minorVersion.toUInt8.toNat
    rw [UInt32.toNat_toUInt8]
    omega
  have hbuild : (((get v).version &&& 0xFFFF0000) >>> 16).toNat = (get v).build.toNat := by
    rw [Word.toNat_and_0xFFFF0000_shiftRight, hword]
    show _ = v.buildNumber.toUInt16.toNat
    rw [UInt32.toNat_toUInt16]
    omega
  unfold getKernelVersion
  simp only [hmaj, hmin, hbuild]

theorem getKernelVersion_get_version_ltsc2022
    : getKernelVersion none (.ok "20348.1.amd64fre.fe_release.210507-1500")
        (.ok (Osversion.get ⟨10, 0, 20348, 3⟩).version) =
      (⟨"20348.1.amd64fre.fe_release.210507-1500", 10, 0, 20348⟩, none) :=
  getKernelVersion_get_version _ ⟨10, 0, 20348, 3⟩ (by decide) (by decide)

end Kernel.Windows
