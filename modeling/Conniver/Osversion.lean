import Conniver.Lib.Scan
import Conniver.Go.Basic

/-!
Windows version information (`pkg/osversion`): the version record `Get` builds from what
`RtlGetVersion` returns, its string form, and `CheckHostAndContainerCompat`, which decides
whether a host may run a container image built for another Windows version. Before Windows
Server 2022 the two builds must be equal. From it on, a host runs every image from the latest
LTSC release before its own build up to its own build; the LTSC table must be sorted for the
scan of `CheckHostAndContainerCompat` to find that release.
-/

namespace Osversion

structure OSVersion where
  version : UInt32
  majorVersion : UInt8
  minorVersion : UInt8
  build : UInt16
  deriving DecidableEq, Repr

-- the fields of the `windows.OsVersionInfoEx` that `Get` and `GetOperatingSystem` read
structure OsVersionInfoEx where
  majorVersion : UInt32
  minorVersion : UInt32
  buildNumber : UInt32
  productType : UInt8
  deriving DecidableEq, Repr

-- the body of the `once.Do` in `Get`, from what `RtlGetVersion` returned
def get (v : OsVersionInfoEx) : OSVersion :=
  let osv : OSVersion :=
    { version := 0, majorVersion := v.majorVersion.toUInt8,
      minorVersion := v.minorVersion.toUInt8, build := v.buildNumber.toUInt16 }
  let osv := { osv with version := v.buildNumber <<< 16 }
  let osv := { osv with version := osv.version ||| (v.minorVersion <<< 8) }
  { osv with version := osv.version ||| v.majorVersion }

-- `fmt.Sprintf("%d.%d.%d", osv.MajorVersion, osv.MinorVersion, osv.Build)`
def OSVersion.string (osv : OSVersion) : String :=
  osv.majorVersion.toNat.repr ++ "." ++ osv.minorVersion.toNat.repr ++ "." ++
    osv.build.toNat.repr

-- `Build`
def build (v : OsVersionInfoEx) : UInt16 :=
  (get v).build

-- `ToString`, the deprecated name of `String`
def OSVersion.toString (osv : OSVersion) : String :=
  osv.string

/--
The registry key `SOFTWARE\Microsoft\Windows NT\CurrentVersion` as the code reads it: the
error of `registry.OpenKey`, if it fails, and what `GetStringValue` and `GetIntegerValue`
return for a value name.
-/
structure CurrentVersionKey where
  openErr : Option Go.Error
  getStringValue : String → Except Go.Error String
  getIntegerValue : String → Except Go.Error UInt64

-- `BuildRevision`, with the errors `fmt.Errorf` wraps
def buildRevision (k : CurrentVersionKey) : UInt32 × Option Go.Error :=
  match k.openErr with
  | some err => (0, some (.other ("open `CurrentVersion` registry key: " ++ err.error)))
  | none =>
    match k.getIntegerValue "UBR" with
    | .error err => (0, some (.other ("read `UBR` from registry: " ++ err.error)))
    | .ok s => (s.toUInt32, none)

def ltsc2022 : UInt16 := 20348

def ltsc2025 : UInt16 := 26100

def compatLTSCReleases : List UInt16 := [ltsc2022, ltsc2025]

-- `for i := len(compatLTSCReleases) - 1; i >= 0; i--`, over the table from its last entry
def supportedLTSCLoop (hostBuild : UInt16) : List UInt16 → UInt16 → UInt16
  | [], supportedLTSCRelease => supportedLTSCRelease
  | r :: rs, supportedLTSCRelease =>
    if hostBuild > r then r else supportedLTSCLoop hostBuild rs supportedLTSCRelease

def checkHostAndContainerCompat (host ctr : OSVersion) : Bool :=
  if host.majorVersion ≠ ctr.majorVersion ∨ host.minorVersion ≠ ctr.minorVersion then false
  else if host.build < ltsc2022 then decide (host.build = ctr.build)
  else
    let supportedLTSCRelease := supportedLTSCLoop host.build compatLTSCReleases.reverse ltsc2022
    decide (supportedLTSCRelease ≤ ctr.build ∧ ctr.build ≤ host.build)

theorem supportedLTSCLoop_eq (hostBuild : UInt16) (rs : List UInt16) (d : UInt16)
    : supportedLTSCLoop hostBuild rs d = (rs.find? (fun r => decide (r < hostBuild))).getD d := by
  induction rs with
  | nil => rfl
  | cons r rs ih =>
    unfold supportedLTSCLoop
    by_cases h : hostBuild > r
    . rw [if_pos h, List.find?_cons_of_pos (by simpa using h)]
      rfl
    . rw [if_neg h, List.find?_cons_of_neg (by simpa using h), ih]

-- the earliest image a host from LTSC 2022 on runs: the latest LTSC release before the
-- host's build, or LTSC 2022 when there is none
def earliestRunnable (hostBuild : UInt16) : UInt16 :=
  ((compatLTSCReleases.filter (fun r => decide (r < hostBuild))).getLast?).getD ltsc2022

theorem supportedLTSCLoop_compatLTSCReleases (hostBuild : UInt16)
    : supportedLTSCLoop hostBuild compatLTSCReleases.reverse ltsc2022 = earliestRunnable hostBuild := by
  rw [supportedLTSCLoop_eq, Scan.find?_reverse_eq_getLast?_filter]
  rfl

theorem compatLTSCReleases_sorted : compatLTSCReleases.Pairwise (· ≤ ·) := by
  decide

theorem earliestRunnable_spec (hostBuild : UInt16) (h : ∃ r ∈ compatLTSCReleases, r < hostBuild)
    : earliestRunnable hostBuild ∈ compatLTSCReleases ∧ earliestRunnable hostBuild < hostBuild ∧
        ∀ r ∈ compatLTSCReleases, r < hostBuild → r ≤ earliestRunnable hostBuild := by
  have hne : compatLTSCReleases.filter (fun r => decide (r < hostBuild)) ≠ [] := by
    obtain ⟨r, hr, hlt⟩ := h
    exact List.ne_nil_of_mem (List.mem_filter.2 ⟨hr, by simpa using hlt⟩)
  have hlast : earliestRunnable hostBuild =
      (compatLTSCReleases.filter (fun r => decide (r < hostBuild))).getLast hne := by
    rw [earliestRunnable, List.getLast?_eq_some_getLast hne, Option.getD_some]
  have hmem := List.mem_filter.1 (hlast ▸ List.getLast_mem hne)
  refine ⟨hmem.1, by simpa using hmem.2, fun r hr hlt => ?_⟩
  rw [hlast]
  exact Scan.le_getLast_of_pairwise UInt16.le_refl
    (compatLTSCReleases_sorted.sublist List.filter_sublist) hne r
    (List.mem_filter.2 ⟨hr, by simpa using hlt⟩)

theorem earliestRunnable_of_forall_not_lt (hostBuild : UInt16)
    (h : ∀ r ∈ compatLTSCReleases, ¬ r < hostBuild) : earliestRunnable hostBuild = ltsc2022 := by
  have hnil : compatLTSCReleases.filter (fun r => decide (r < hostBuild)) = [] := by
    rw [List.filter_eq_nil_iff]
    intro r hr
    simpa using h r hr
  rw [earliestRunnable, hnil]
  rfl

theorem checkHostAndContainerCompat_iff (host ctr : OSVersion)
    : checkHostAndContainerCompat host ctr = true ↔
        host.majorVersion = ctr.majorVersion ∧ host.minorVersion = ctr.minorVersion ∧
          if host.build < ltsc2022 then ctr.build = host.build
          else earliestRunnable host.build ≤ ctr.build ∧ ctr.build ≤ host.build := by
  unfold checkHostAndContainerCompat
  rw [supportedLTSCLoop_compatLTSCReleases]
  by_cases hv : host.majorVersion ≠ ctr.majorVersion ∨ host.minorVersion ≠ ctr.minorVersion
  . rw [if_pos hv]
    simp only [Bool.false_eq_true, false_iff]
    rintro ⟨hmaj, hmin, -⟩
    rcases hv with hv | hv
    . exact hv hmaj
    . exact hv hmin
  . rw [if_neg hv]
    rw [not_or, not_not, not_not] at hv
    split
    . simp [hv, eq_comm]
    . simp [hv]

-- the comment's reading of a scan that finds nothing: the host is LTSC 2022 itself
theorem eq_ltsc2022_of_forall_not_lt {hostBuild : UInt16} (hb : ¬ hostBuild < ltsc2022)
    (h : ∀ r ∈ compatLTSCReleases, ¬ r < hostBuild) : hostBuild = ltsc2022 := by
  have hle : hostBuild ≤ ltsc2022 := UInt16.not_lt.1 (h ltsc2022 (by decide))
  exact UInt16.le_antisymm hle (UInt16.not_lt.1 hb)

theorem checkHostAndContainerCompat_self (v : OSVersion) : checkHostAndContainerCompat v v = true := by
  rw [checkHostAndContainerCompat_iff]
  refine ⟨rfl, rfl, ?_⟩
  split
  . rfl
  . refine ⟨?_, UInt16.le_refl _⟩
    by_cases h : ∃ r ∈ compatLTSCReleases, r < v.build
    . exact UInt16.le_of_lt (earliestRunnable_spec v.build h).2.1
    . -- the scan finds nothing
      have hnone : ∀ r ∈ compatLTSCReleases, ¬ r < v.build := fun r hr hlt => h ⟨r, hr, hlt⟩
      rename_i hb
      rw [earliestRunnable_of_forall_not_lt v.build hnone, ← eq_ltsc2022_of_forall_not_lt hb hnone]
      exact UInt16.le_refl _

-- three rows of `Test_PlatformCompat`: LTSC 2019 (17763) and Windows 11 22H2 (22621) hosts
example : checkHostAndContainerCompat ⟨0, 10, 0, 17763⟩ ⟨0, 10, 0, ltsc2022⟩ = false ∧
    checkHostAndContainerCompat ⟨0, 10, 0, ltsc2022⟩ ⟨0, 10, 0, ltsc2025⟩ = false ∧
    checkHostAndContainerCompat ⟨0, 10, 0, ltsc2025⟩ ⟨0, 10, 0, 22621⟩ = true := by
  decide

end Osversion
