import Conniver.Kernel.Version

/-!
`ParseRelease` and `GetKernelVersion` of `pkg/kernel`. `ParseRelease` chains two
`fmt.Sscanf` passes, `"%d.%d%s"` and then `".%d%s"` over the rest of the release, and keeps
that rest as the flavor when the second pass stores nothing.

The main results say that parsing inverts printing: `ParseRelease (v.String ())` gives back
`v` whenever the flavor holds no white space and does not start with a digit, and a
two-component release `K.M` with such a tail, one that does not start with `.` and a signed
digit either, parses with minor `0` and the whole tail as flavor.
-/

namespace Kernel

open Go.fmt

def intOperand (vals : List Value) (i : Nat) : Int64 :=
  match vals[i]? with
  | some (.int v) => v
  | _ => 0

def strOperand (vals : List Value) (i : Nat) : String :=
  match vals[i]? with
  | some (.str v) => v
  | _ => ""

/--
`ParseRelease` parses a string and creates a `VersionInfo` based on it. The errors of both
scans are ignored; the first one has to have stored the kernel and major numbers.
-/
def parseRelease (release : String) : Except Go.Error VersionInfo :=
  -- `parsed, _ = fmt.Sscanf(release, "%d.%d%s", &kernel, &major, &partial)`
  let scan := Sscanf release [.d, .lit '.', .d, .s]
  if scan.1.length < 2 then
    .error (.other ("Can't parse kernel version " ++ release))
  else
    let remainder := strOperand scan.1 2
    -- sometimes we have 3.12.25-gentoo, but sometimes we just have 3.12-1-amd64:
    -- `parsed, _ = fmt.Sscanf(partial, ".%d%s", &minor, &flavor)`
    let scan' := Sscanf remainder [.lit '.', .d, .s]
    let flavor := if scan'.1.length < 1 then remainder else strOperand scan'.1 1
    .ok ⟨intOperand scan.1 0, intOperand scan.1 1, intOperand scan'.1 0, flavor⟩

def getKernelVersion (uname : Except Go.Error String) : Except Go.Error VersionInfo :=
  match uname with
  | .error e => .error e
  | .ok release => parseRelease release

def checkKernelVersion (uname : Except Go.Error String) (k major minor : Int64) :
    Except Go.Error Bool :=
  match getKernelVersion uname with
  | .error e => .error e
  | .ok v => .ok (decide (0 ≤ compareKernelVersion v ⟨k, major, minor, ""⟩))

/-! ## Reading the numeric part -/

theorem sscanf_kernel_major (K M : Int64) (tail : List Char)
    (hws : ∀ c ∈ tail, isSpace c = false) (hdigit : Decimal.NotStartsWith Char.isDigit tail) :
    (Sscanf (formatInt K ++ "." ++ formatInt M ++ String.ofList tail) [.d, .lit '.', .d, .s]).1 =
      [.int K, .int M] ++ (if tail = [] then [] else [.str (String.ofList tail)]) := by
  have hdot : Decimal.NotStartsWith Char.isDigit ('.' :: ((formatInt M).toList ++ tail)) := by
    rw [Decimal.notStartsWith_cons]
    decide
  rw [Sscanf]
  simp only [String.toList_append, String.toList_ofList, List.append_assoc]
  rw [show String.toList "." = ['.'] from rfl, List.singleton_append,
    doScanf_d_formatInt K hdot, doScanf_lit_self, doScanf_d_formatInt M hdigit]
  split
  . next hnil =>
    subst hnil
    simp [doScanf_s_nil]
  . next hne =>
    rw [doScanf_s_word hws hne, doScanf_nil_format]
    simp

theorem sscanf_minor (m : Int64) (tail : List Char) (hws : ∀ c ∈ tail, isSpace c = false)
    (hdigit : Decimal.NotStartsWith Char.isDigit tail) :
    (Sscanf (String.ofList ('.' :: ((formatInt m).toList ++ tail))) [.lit '.', .d, .s]).1 =
      [.int m] ++ (if tail = [] then [] else [.str (String.ofList tail)]) := by
  rw [Sscanf, String.toList_ofList, doScanf_lit_self, doScanf_d_formatInt m hdigit]
  split
  . next hnil =>
    subst hnil
    simp [doScanf_s_nil]
  . next hne =>
    rw [doScanf_s_word hws hne, doScanf_nil_format]
    simp

/-! ## Parsing inverts printing -/

theorem parseRelease_string (v : VersionInfo) (hws : ∀ c ∈ v.flavor.toList, isSpace c = false)
    (hdigit : Decimal.NotStartsWith Char.isDigit v.flavor.toList) :
    parseRelease v.string = .ok v := by
  -- the tail the first scan stores as one word: `.`, the minor number, the flavor
  let tail := '.' :: ((formatInt v.minor).toList ++ v.flavor.toList)
  have htail_ws : ∀ c ∈ tail, isSpace c = false := by
    intro c hc
    simp only [tail, List.mem_cons, List.mem_append] at hc
    rcases hc with rfl | hc | hc
    . decide
    . exact isSpace_of_mem_formatInt hc
    . exact hws c hc
  have htail_digit : Decimal.NotStartsWith Char.isDigit tail := by
    rw [Decimal.notStartsWith_cons]
    decide
  have hstring : v.string = formatInt v.kernel ++ "." ++ formatInt v.major ++ String.ofList tail := by
    apply String.toList_inj.mp
    simp [tail, VersionInfo.string, String.toList_append]
  have hfirst := sscanf_kernel_major v.kernel v.major tail htail_ws htail_digit
  have hsecond := sscanf_minor v.minor v.flavor.toList hws hdigit
  unfold parseRelease
  dsimp only
  rw [hstring, hfirst, if_neg (List.cons_ne_nil _ _)]
  rw [show strOperand ([Value.int v.kernel, Value.int v.major] ++ [Value.str (String.ofList tail)]) 2 =
    String.ofList tail from rfl, hsecond]
  -- an empty flavor is the `%s` of the second scan failing at the end of the input
  by_cases hf : v.flavor = ""
  . simp only [hf, String.toList_empty, if_true, List.append_nil]
    simp [intOperand, strOperand]
    rw [← hf]
  . simp [intOperand, strOperand, hf]

theorem sscanf_tail_stores_nothing (f : String) (hws : ∀ c ∈ f.toList, isSpace c = false)
    (hdot : ∀ g, f.toList = '.' :: g → ¬ StartsWithSignedDigit g) :
    (Sscanf f [.lit '.', .d, .s]).1 = [] := by
  rw [Sscanf]
  cases hf : f.toList with
  | nil => rfl
  | cons c g =>
    by_cases hc : c = '.'
    . subst hc
      rw [doScanf_lit_self]
      apply doScanf_d_of_not_startsWithSignedDigit
      . intro d hd
        apply hws d
        rw [hf]
        exact List.mem_cons_of_mem _ (List.mem_of_mem_head? hd)
      . exact hdot g hf
    . rw [doScanf_lit_ne hc]

theorem parseRelease_two_components (K M : Int64) (f : String)
    (hws : ∀ c ∈ f.toList, isSpace c = false)
    (hdigit : Decimal.NotStartsWith Char.isDigit f.toList)
    (hdot : ∀ g, f.toList = '.' :: g → ¬ StartsWithSignedDigit g) :
    parseRelease (formatInt K ++ "." ++ formatInt M ++ f) = .ok ⟨K, M, 0, f⟩ := by
  have hfirst := sscanf_kernel_major K M f.toList hws hdigit
  rw [String.ofList_toList] at hfirst
  unfold parseRelease
  dsimp only
  rw [hfirst]
  by_cases hf : f = ""
  . -- the first scan stops at `%s`, and the second one at its literal `.`
    subst hf
    simp [strOperand, intOperand, Sscanf, doScanf_lit_nil]
  . have hne : f.toList ≠ [] := by simpa using hf
    have hrest := sscanf_tail_stores_nothing f hws hdot
    simp only [hne, if_false]
    rw [show strOperand ([Value.int K, Value.int M] ++ [Value.str f]) 2 = f from rfl, hrest]
    simp [intOperand]

end Kernel
