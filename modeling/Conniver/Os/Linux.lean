import Conniver.Go.Basic
import Conniver.Go.Strings
import Conniver.Lib.Events

/-!
What `pkg/os` finds out about a Linux host (`operatingsystem_linux.go`). `getValueFromOsRelease`
opens `/etc/os-release`, or `/usr/lib/os-release` when the first file does not exist, and
scans it line by line: every line that starts with the key and `=` sets the value, with
quotes and blanks trimmed from both ends, so the last such line wins. The scanner's error is
never checked, so a line too long for its buffer silently ends the scan. `IsContainerized`
reads `/proc/1/cgroup`, whose lines are `hierarchy-ID:controller-list:cgroup-path`, and says
yes as soon as a line ends neither in `:/` nor in `:/init.scope`: for a file in that format,
when some control group's path is neither `/` nor `/init.scope`.
-/

namespace Os.Linux

def proc1Cgroup : String := "/proc/1/cgroup"

def etcOsRelease : String := "/etc/os-release"

def altOsRelease : String := "/usr/lib/os-release"

/--
The files as the code sees them: `os.Open` of a path gives the text that reading the open
file delivers, or the error of opening it; `os.ReadFile` gives the bytes or an error; and
`os.IsNotExist` tells the errors of a missing file.
-/
structure FileSystem where
  openFile : String → Except Go.Error String
  readFile : String → Except Go.Error (List UInt8)
  isNotExist : Go.Error → Bool

-- the `os.Open` calls of `getValueFromOsRelease`: the second file only when the first is missing
def openOsRelease (fs : FileSystem) : Except Go.Error String :=
  match fs.openFile etcOsRelease with
  | .ok osReleaseFile => .ok osReleaseFile
  | .error err => if !fs.isNotExist err then .error err else fs.openFile altOsRelease

-- the cutset of the `strings.Trim` call
def quotesAndBlanks : List Char := ['"', '\'', ' ']

-- one turn of the scan loop of `getValueFromOsRelease`
def scanStep (key : String) (value : List Char) (line : List Char) : List Char :=
  let (after, ok) := Go.strings.cutPrefix line (key.toList ++ ['='])
  if ok then Go.strings.trim after quotesAndBlanks else value

def getValueFromOsRelease (fs : FileSystem) (key : String) : String × Option Go.Error :=
  match openOsRelease fs with
  | .error err => ("", some err)
  | .ok osReleaseFile =>
    let value :=
      (Go.bufio.tokens Go.bufio.maxScanTokenSize osReleaseFile.toList).foldl (scanStep key) []
    (String.ofList value, none)

def getOperatingSystem (fs : FileSystem) : String × Option Go.Error :=
  match getValueFromOsRelease fs "PRETTY_NAME" with
  | (_, some err) => ("", some err)
  | (prettyName, none) => if prettyName ≠ "" then (prettyName, none) else ("Linux", none)

def getOperatingSystemVersion (fs : FileSystem) : String × Option Go.Error :=
  getValueFromOsRelease fs "VERSION_ID"

-- `":/"`
def rootSuffix : List UInt8 := [0x3a, 0x2f]

-- `":/init.scope"`
def initScopeSuffix : List UInt8 :=
  [0x3a, 0x2f, 0x69, 0x6e, 0x69, 0x74, 0x2e, 0x73, 0x63, 0x6f, 0x70, 0x65]

-- the test of the loop of `IsContainerized`
def inContainerLine (line : List UInt8) : Bool :=
  line.length > 0 && !Go.bytes.hasSuffix line rootSuffix &&
    !Go.bytes.hasSuffix line initScopeSuffix

-- the loop returns true at the first line that passes the test
def isContainerized (fs : FileSystem) : Bool × Option Go.Error :=
  match fs.readFile proc1Cgroup with
  | .error err => (false, some err)
  | .ok b => ((Go.bytes.splitSeq b 0x0a).any inContainerLine, none)

/-! ## The scan loop -/

def lineValue (key : String) (line : List Char) : Option (List Char) :=
  let (after, ok) := Go.strings.cutPrefix line (key.toList ++ ['='])
  if ok then some (Go.strings.trim after quotesAndBlanks) else none

theorem scanStep_eq_overwrite (key : String) : scanStep key = Events.overwrite (lineValue key) := by
  funext value line
  unfold scanStep lineValue Events.overwrite
  split
  split <;> simp_all

theorem getValueFromOsRelease_eq (fs : FileSystem) (key : String)
    : getValueFromOsRelease fs key =
        match openOsRelease fs with
        | .error err => ("", some err)
        | .ok osReleaseFile =>
          (String.ofList ((((Go.bufio.tokens Go.bufio.maxScanTokenSize
            osReleaseFile.toList).filterMap (lineValue key)).getLast?).getD []), none) := by
  unfold getValueFromOsRelease
  rw [scanStep_eq_overwrite]
  cases openOsRelease fs with
  | error err => rfl
  | ok osReleaseFile =>
    dsimp only
    rw [Events.foldl_overwrite]

/-! ## Reading back a rendered file -/

-- a line `KEY="value"` of an os-release file
def assignmentLine (kv : String × String) : List Char :=
  kv.1.toList ++ '=' :: ('"' :: kv.2.toList ++ ['"'])

def renderOsRelease (kvs : List (String × String)) : List Char :=
  kvs.flatMap (assignmentLine · ++ ['\n'])

def lastAssigned (kvs : List (String × String)) (key : String) : String :=
  (((kvs.filter (·.1 = key)).map Prod.snd).getLast?).getD ""

/--
An assignment reads back when its key has no `=` and no line break, its value no line
break and no quote or blank at either end, and its line fits in the scanner's buffer.
-/
structure AssignmentOk (kv : String × String) : Prop where
  key_eq : '=' ∉ kv.1.toList
  key_newline : '\n' ∉ kv.1.toList
  value_newline : '\n' ∉ kv.2.toList
  value_head : kv.2.toList.head?.all (fun c => !quotesAndBlanks.contains c) = true
  value_last : kv.2.toList.getLast?.all (fun c => !quotesAndBlanks.contains c) = true
  fits : Go.bufio.utf8Len (assignmentLine kv) < Go.bufio.maxScanTokenSize

instance (kv : String × String) : Decidable (AssignmentOk kv) :=
  decidable_of_iff ('=' ∉ kv.1.toList ∧ '\n' ∉ kv.1.toList ∧ '\n' ∉ kv.2.toList ∧
      kv.2.toList.head?.all (fun c => !quotesAndBlanks.contains c) = true ∧
      kv.2.toList.getLast?.all (fun c => !quotesAndBlanks.contains c) = true ∧
      Go.bufio.utf8Len (assignmentLine kv) < Go.bufio.maxScanTokenSize)
    ⟨fun ⟨h1, h2, h3, h4, h5, h6⟩ => ⟨h1, h2, h3, h4, h5, h6⟩,
      fun ⟨h1, h2, h3, h4, h5, h6⟩ => ⟨h1, h2, h3, h4, h5, h6⟩⟩

theorem lineValue_assignmentLine {key : String} (hkey : '=' ∉ key.toList) {kv : String × String}
    (hkv : AssignmentOk kv)
    : lineValue key (assignmentLine kv) = if kv.1 = key then some kv.2.toList else none := by
  unfold lineValue assignmentLine
  rw [Go.strings.cutPrefix_append_sep hkey hkv.key_eq]
  by_cases hk : kv.1 = key
  . have hq : '"' ∈ quotesAndBlanks := by decide
    simp only [hk, if_true]
    rw [Go.strings.trim_quoted hq hkv.value_head hkv.value_last]
  . have hk' : key.toList ≠ kv.1.toList := fun h => hk (String.toList_inj.1 h).symm
    simp [hk, hk']

theorem filterMap_lineValue_assignments {key : String} (hkey : '=' ∉ key.toList)
    (kvs : List (String × String)) (hkvs : ∀ kv ∈ kvs, AssignmentOk kv)
    : (kvs.map assignmentLine).filterMap (lineValue key) =
        (kvs.filter (·.1 = key)).map (·.2.toList) := by
  induction kvs with
  | nil => rfl
  | cons kv kvs ih =>
    rw [List.map_cons, List.filterMap_cons,
      lineValue_assignmentLine hkey (hkvs kv List.mem_cons_self),
      ih (fun kv' hkv' => hkvs kv' (List.mem_cons_of_mem kv hkv')), List.filter_cons]
    by_cases hk : kv.1 = key <;> simp [hk]

theorem tokens_renderOsRelease (kvs : List (String × String))
    (hkvs : ∀ kv ∈ kvs, AssignmentOk kv) (rest : List Char)
    : Go.bufio.tokens Go.bufio.maxScanTokenSize (renderOsRelease kvs ++ rest) =
        kvs.map assignmentLine ++ Go.bufio.tokens Go.bufio.maxScanTokenSize rest := by
  have hlines : ∀ l ∈ kvs.map assignmentLine, '\n' ∉ l ∧ l.getLast? ≠ some '\r' ∧
      Go.bufio.utf8Len l < Go.bufio.maxScanTokenSize := by
    intro l hl
    obtain ⟨kv, hkv, rfl⟩ := List.mem_map.1 hl
    have h := hkvs kv hkv
    have hquote : (assignmentLine kv).getLast? = some '"' := by
      have hsplit :
          assignmentLine kv = (kv.1.toList ++ '=' :: '"' :: kv.2.toList) ++ ['"'] := by
        simp [assignmentLine]
      rw [hsplit, List.getLast?_concat]
    refine ⟨?_, by rw [hquote]; decide, h.fits⟩
    simp [assignmentLine, h.key_newline, h.value_newline]
  have hflat : renderOsRelease kvs = (kvs.map assignmentLine).flatMap (· ++ ['\n']) := by
    rw [renderOsRelease, List.flatMap_map]
  rw [hflat, Go.bufio.tokens_lines _ _ _ (fun l hl => (hlines l hl).1)
    (fun l hl => (hlines l hl).2.1) (fun l hl => (hlines l hl).2.2)]

theorem lastAssigned_eq (kvs : List (String × String)) (key : String)
    : String.ofList ((((kvs.filter (·.1 = key)).map (·.2.toList)).getLast?).getD []) =
        lastAssigned kvs key := by
  have hmap : (kvs.filter (·.1 = key)).map (·.2.toList) =
      ((kvs.filter (·.1 = key)).map Prod.snd).map String.toList := by
    rw [List.map_map]
    rfl
  unfold lastAssigned
  rw [hmap, List.getLast?_map]
  cases ((kvs.filter (·.1 = key)).map Prod.snd).getLast? <;> simp

theorem getValueFromOsRelease_of_tokens {fs : FileSystem} {osReleaseFile : String}
    (hopen : openOsRelease fs = .ok osReleaseFile) {kvs : List (String × String)}
    (hkvs : ∀ kv ∈ kvs, AssignmentOk kv)
    (htokens : Go.bufio.tokens Go.bufio.maxScanTokenSize osReleaseFile.toList =
      kvs.map assignmentLine)
    {key : String} (hkey : '=' ∉ key.toList)
    : getValueFromOsRelease fs key = (lastAssigned kvs key, none) := by
  rw [getValueFromOsRelease_eq, hopen]
  dsimp only
  rw [htokens, filterMap_lineValue_assignments hkey kvs hkvs, lastAssigned_eq]

theorem getValueFromOsRelease_renderOsRelease (fs : FileSystem) (kvs : List (String × String))
    (hopen : openOsRelease fs = .ok (String.ofList (renderOsRelease kvs)))
    (hkvs : ∀ kv ∈ kvs, AssignmentOk kv) (key : String) (hkey : '=' ∉ key.toList)
    : getValueFromOsRelease fs key = (lastAssigned kvs key, none) := by
  apply getValueFromOsRelease_of_tokens hopen hkvs _ hkey
  have hnil : Go.bufio.tokens Go.bufio.maxScanTokenSize [] = [] := rfl
  rw [String.toList_ofList, ← List.append_nil (renderOsRelease kvs),
    tokens_renderOsRelease kvs hkvs [], hnil, List.append_nil]

theorem getOperatingSystem_renderOsRelease (fs : FileSystem) (kvs : List (String × String))
    (hopen : openOsRelease fs = .ok (String.ofList (renderOsRelease kvs)))
    (hkvs : ∀ kv ∈ kvs, AssignmentOk kv)
    : getOperatingSystem fs =
        (if lastAssigned kvs "PRETTY_NAME" ≠ "" then lastAssigned kvs "PRETTY_NAME" else "Linux",
          none) := by
  have hkey : '=' ∉ "PRETTY_NAME".toList := by decide
  unfold getOperatingSystem
  rw [getValueFromOsRelease_renderOsRelease fs kvs hopen hkvs _ hkey]
  dsimp only
  by_cases h : lastAssigned kvs "PRETTY_NAME" = "" <;> simp [h]

-- the file of `TestOsReleaseFallback`, with the Gentoo name
theorem getOperatingSystem_renderOsRelease_gentoo
    : getOperatingSystem ⟨fun _ => .ok (String.ofList (renderOsRelease
          [("NAME", "Gentoo"), ("ID", "gentoo"), ("PRETTY_NAME", "Gentoo/Linux")])),
        fun _ => .ok [], fun _ => true⟩ =
      (if lastAssigned [("NAME", "Gentoo"), ("ID", "gentoo"), ("PRETTY_NAME", "Gentoo/Linux")]
          "PRETTY_NAME" ≠ "" then
        lastAssigned [("NAME", "Gentoo"), ("ID", "gentoo"), ("PRETTY_NAME", "Gentoo/Linux")]
          "PRETTY_NAME"
      else "Linux", none) :=
  getOperatingSystem_renderOsRelease _ _ rfl (by decide)

theorem getValueFromOsRelease_long_line (fs : FileSystem) (kvs : List (String × String))
    (long rest : List Char)
    (hopen : openOsRelease fs =
      .ok (String.ofList (renderOsRelease kvs ++ long ++ '\n' :: rest)))
    (hkvs : ∀ kv ∈ kvs, AssignmentOk kv) (hnewline : '\n' ∉ long)
    (hlong : Go.bufio.maxScanTokenSize ≤ Go.bufio.utf8Len long) (key : String)
    (hkey : '=' ∉ key.toList)
    : getValueFromOsRelease fs key = (lastAssigned kvs key, none) := by
  apply getValueFromOsRelease_of_tokens hopen hkvs _ hkey
  rw [String.toList_ofList, List.append_assoc, tokens_renderOsRelease kvs hkvs,
    Go.bufio.tokens_long_line _ long rest hnewline hlong, List.append_nil]

theorem getValueFromOsRelease_long_line_version_id
    : getValueFromOsRelease ⟨fun _ => .ok (String.ofList
          (renderOsRelease [("VERSION_ID", "14.04")] ++ List.replicate 65536 'x' ++
            '\n' :: renderOsRelease [("VERSION_ID", "18.04")])),
        fun _ => .ok [], fun _ => true⟩ "VERSION_ID" =
      (lastAssigned [("VERSION_ID", "14.04")] "VERSION_ID", none) :=
  getValueFromOsRelease_long_line _ [("VERSION_ID", "14.04")] (List.replicate 65536 'x') _ rfl
    (by decide) (fun h => absurd (List.eq_of_mem_replicate h) (by decide))
    (by rw [Go.bufio.utf8Len_replicate]; decide) "VERSION_ID" (by decide)

/-! ## Control groups -/

-- a line `hierarchy-ID:controller-list:cgroup-path` of `/proc/[pid]/cgroup`
structure CgroupEntry where
  hierarchyId : List UInt8
  controllers : List UInt8
  path : List UInt8

def CgroupEntry.line (e : CgroupEntry) : List UInt8 :=
  e.hierarchyId ++ 0x3a :: e.controllers ++ 0x3a :: e.path

def renderCgroup (es : List CgroupEntry) : List UInt8 :=
  es.flatMap (·.line ++ [0x0a])

-- `"/"`
def rootPath : List UInt8 := [0x2f]

-- `"/init.scope"`
def initScopePath : List UInt8 :=
  [0x2f, 0x69, 0x6e, 0x69, 0x74, 0x2e, 0x73, 0x63, 0x6f, 0x70, 0x65]

theorem inContainerLine_line (e : CgroupEntry) (hcolon : 0x3a ∉ e.path)
    : inContainerLine e.line = (e.path != rootPath && e.path != initScopePath) := by
  have hline : e.line = (e.hierarchyId ++ 0x3a :: e.controllers) ++ 0x3a :: e.path := by
    simp [CgroupEntry.line]
  have hroot : Go.bytes.hasSuffix e.line rootSuffix = (e.path == rootPath) := by
    rw [hline, Bool.eq_iff_iff, beq_iff_eq]
    exact Go.bytes.hasSuffix_sep_iff hcolon (by decide)
  have hinit : Go.bytes.hasSuffix e.line initScopeSuffix = (e.path == initScopePath) := by
    rw [hline, Bool.eq_iff_iff, beq_iff_eq]
    exact Go.bytes.hasSuffix_sep_iff hcolon (by decide)
  have hlen : e.line.length > 0 := by
    simp only [CgroupEntry.line, List.length_append, List.length_cons]
    omega
  rw [inContainerLine, hroot, hinit]
  simp [hlen, bne]

theorem isContainerized_renderCgroup (fs : FileSystem) (es : List CgroupEntry)
    (hread : fs.readFile proc1Cgroup = .ok (renderCgroup es))
    (hnewline : ∀ e ∈ es, 0x0a ∉ e.line) (hcolon : ∀ e ∈ es, 0x3a ∉ e.path)
    : isContainerized fs =
        (es.any (fun e => e.path != rootPath && e.path != initScopePath), none) := by
  have hsplit : Go.bytes.splitSeq (renderCgroup es) 0x0a = es.map CgroupEntry.line ++ [[]] := by
    have hflat : renderCgroup es = (es.map CgroupEntry.line).flatMap (· ++ [0x0a]) := by
      rw [renderCgroup, List.flatMap_map]
    rw [Go.bytes.splitSeq, hflat]
    apply Affix.splitOn_flatMap_append_singleton
    intro l hl
    obtain ⟨e, he, rfl⟩ := List.mem_map.1 hl
    exact hnewline e he
  rw [isContainerized, hread]
  dsimp only
  rw [hsplit, List.any_append, List.any_map]
  -- the empty piece after the last line break passes no test
  have hlast : [([] : List UInt8)].any inContainerLine = false := rfl
  rw [hlast, Bool.or_false]
  have hmem : ∀ e ∈ es, (inContainerLine ∘ CgroupEntry.line) e =
      (e.path != rootPath && e.path != initScopePath) :=
    fun e he => inContainerLine_line e (hcolon e he)
  congr 1
  rw [Bool.eq_iff_iff, List.any_eq_true, List.any_eq_true]
  exact exists_congr (fun e => and_congr_right (fun he => by rw [hmem e he]))

theorem isContainerized_renderCgroup_v2_root
    : isContainerized ⟨fun _ => .error (.other ""),
        fun _ => .ok (renderCgroup [⟨[0x30], [], rootPath⟩]), fun _ => true⟩ =
      ([(⟨[0x30], [], rootPath⟩ : CgroupEntry)].any
        (fun e => e.path != rootPath && e.path != initScopePath), none) :=
  isContainerized_renderCgroup _ [⟨[0x30], [], rootPath⟩] rfl (by decide) (by decide)

end Os.Linux
