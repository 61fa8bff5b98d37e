import Conniver.Go.Fmt
import Conniver.Osversion

/-!
What `pkg/os` finds out about a Windows host (`operatingsystem_windows.go` and
`windows_os_string.go`). `GetOperatingSystem` names the product as `winver.exe` does, from the
product type and build of `RtlGetVersion` and, as far as the registry has them, the display
version and the update build revision; it never fails. `getFirstStringValue` returns the
first of the value names the key holds, and gives up at the first error that is not
`ErrNotExist`.
-/

namespace Os.Windows

open Osversion

-- `VER_NT_WORKSTATION`
def verNTWorkstation : UInt8 := 0x00000001

structure WindowsOSRelease where
  isServer : Bool
  displayVersion : String
  build : UInt32
  ubr : UInt64
  deriving DecidableEq, Repr

-- `(*windowsOSRelease).String`, written into a `strings.Builder`
def WindowsOSRelease.string (r : WindowsOSRelease) : String :=
  let b := "Microsoft Windows"
  let b := if r.isServer then b ++ " Server" else b
  let b := if r.displayVersion ≠ "" then b ++ " Version " ++ r.displayVersion else b
  let b := b ++ " (OS Build " ++ Go.strconv.formatUint r.build.toUInt64
  let b := if r.ubr > 0 then b ++ "." ++ Go.strconv.formatUint r.ubr else b
  b ++ ")"

-- `registry.ErrNotExist`, the error `ERROR_FILE_NOT_FOUND`
def errNotExist : Go.Error :=
  .other "The system cannot find the file specified."

-- `errors.Is(err, registry.ErrNotExist)` compares the errno the registry returns
def getFirstStringValue (key : CurrentVersionKey) : List String → String × Option Go.Error
  | [] => ("", some errNotExist)
  | n :: names =>
    match key.getStringValue n with
    | .error err => if err ≠ errNotExist then ("", some err) else getFirstStringValue key names
    | .ok val => (val, none)

def getOperatingSystem (osversion : OsVersionInfoEx) (key : CurrentVersionKey)
    : String × Option Go.Error :=
  let rel : WindowsOSRelease :=
    { isServer := osversion.productType != verNTWorkstation, displayVersion := "",
      build := osversion.buildNumber, ubr := 0 }
  match key.openErr with
  | some _ => (rel.string, none)
  | none =>
    let rel :=
      match getFirstStringValue key ["DisplayVersion", "ReleaseId"] with
      | (ver, none) => { rel with displayVersion := ver }
      | (_, some _) => rel
    let rel :=
      match key.getIntegerValue "UBR" with
      | .ok ubr => { rel with ubr := ubr }
      | .error _ => rel
    (rel.string, none)

def getOperatingSystemVersion (v : OsVersionInfoEx) : String × Option Go.Error :=
  ((get v).toString, none)

def isContainerized : Bool × Option Go.Error :=
  (false, none)

def isWindowsClient (v : OsVersionInfoEx) : Bool :=
  v.productType == verNTWorkstation

end Os.Windows
