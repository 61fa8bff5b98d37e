import Conniver.Lib.Affix

/-!
The text handling of Go's standard library that `pkg/os` and `cmd/httpstat` use:
`strings.CutPrefix`, `strings.Trim`, `TrimLeft` and `TrimRight`, `strings.Index` with a
one-rune separator, `bytes.HasSuffix` and `bytes.SplitSeq` with a one-byte separator, and a
`bufio.Scanner` with the split function `ScanLines`. Strings are their runes here, as in
`Go.fmt`; byte slices are lists of bytes.

The scanner cuts its input at every `'\n'`, drops one `'\r'` before it, and yields the text
after the last `'\n'` as a final line when it is not empty. A line has to fit, with the byte
that ends it, in a buffer of at most `maxTokenSize` bytes; the first line that does not ends
the scan with `ErrTooLong`, and nothing after it is read. A read error ends the scan as the
end of the input does, so the data here is what the reads delivered.
-/

namespace Go.strings

-- `strings.HasPrefix`
def hasPrefix (s pre : List Char) : Bool :=
  pre.isPrefixOf s

-- `strings.CutPrefix`
def cutPrefix (s pre : List Char) : List Char × Bool :=
  if hasPrefix s pre then (s.drop pre.length, true) else (s, false)

-- `strings.Trim`, which trims the right end and then the left end
def trim (s cutset : List Char) : List Char :=
  (s.rdropWhile cutset.contains).dropWhile cutset.contains

-- `strings.TrimLeft`
def trimLeft (s cutset : List Char) : List Char :=
  s.dropWhile cutset.contains

-- `strings.TrimRight`
def trimRight (s cutset : List Char) : List Char :=
  s.rdropWhile cutset.contains

-- `strings.Index(s, sep)` for a separator of one rune, counted in runes; `none` is the -1
-- of no match
def index (s : List Char) (sep : Char) : Option Nat :=
  s.idxOf? sep

theorem index_append_cons {s t : List Char} {sep : Char} (hs : sep ∉ s)
    : index (s ++ sep :: t) sep = some s.length := by
  induction s with
  | nil => simp [index, List.idxOf?_cons]
  | cons c s ih =>
    have hc : c ≠ sep := fun h => hs (h ▸ List.mem_cons_self)
    rw [index, List.cons_append, List.idxOf?_cons, if_neg (by simpa using hc), ← index,
      ih (fun h => hs (List.mem_cons_of_mem c h))]
    rfl

theorem trimRight_append_replicate {s cutset : List Char} {c : Char} (m : Nat) (hc : c ∈ cutset)
    (hs : s.getLast?.all (fun c => !cutset.contains c) = true)
    : trimRight (s ++ List.replicate m c) cutset = s := by
  induction m with
  | zero =>
    rw [List.replicate_zero, List.append_nil, trimRight, List.rdropWhile_eq_self_iff]
    intro hne
    rw [List.getLast?_eq_some_getLast hne] at hs
    simpa using hs
  | succ m ih =>
    rw [List.replicate_succ', ← List.append_assoc, trimRight,
      List.rdropWhile_concat_pos _ _ _ (by simpa using hc)]
    exact ih

theorem trimLeft_append {s t cutset : List Char} (hs : ∀ c ∈ s, c ∈ cutset)
    (ht : t.head?.all (fun c => !cutset.contains c) = true)
    : trimLeft (s ++ t) cutset = t := by
  rw [trimLeft, List.dropWhile_append_of_pos (by simpa using hs)]
  cases t with
  | nil => rfl
  | cons c t => exact List.dropWhile_cons_of_neg (by simpa using ht)

theorem cutPrefix_append_sep {k k' v : List Char} {a : Char} (hk : a ∉ k) (hk' : a ∉ k')
    : cutPrefix (k' ++ a :: v) (k ++ [a]) = if k = k' then (v, true) else (k' ++ a :: v, false) := by
  unfold cutPrefix hasPrefix
  by_cases hkk : k = k'
  . subst hkk
    rw [if_pos ((Affix.isPrefixOf_append_singleton_iff hk hk').2 rfl), if_pos rfl]
    simp
  . rw [if_neg (by rw [Affix.isPrefixOf_append_singleton_iff hk hk']; exact hkk), if_neg hkk]

theorem trim_quoted {cutset v : List Char} {q : Char} (hq : q ∈ cutset)
    (hhead : v.head?.all (fun c => !cutset.contains c) = true)
    (hlast : v.getLast?.all (fun c => !cutset.contains c) = true)
    : trim (q :: v ++ [q]) cutset = v :=
  Affix.dropWhile_rdropWhile_wrap cutset.contains (by simpa using hq) v
    (fun c hc => by rw [Option.mem_def] at hc; simpa [hc] using hhead)
    (fun c hc => by rw [Option.mem_def] at hc; simpa [hc] using hlast)

end Go.strings

namespace Go.bytes

-- `bytes.HasSuffix`
def hasSuffix (s suffix : List UInt8) : Bool :=
  suffix.isSuffixOf s

-- `bytes.SplitSeq(s, []byte{sep})`: every piece between two separators, empty ones included
def splitSeq (s : List UInt8) (sep : UInt8) : List (List UInt8) :=
  s.splitOn sep

theorem hasSuffix_sep_iff {s p q : List UInt8} {a : UInt8} (hp : a ∉ p) (hq : a ∉ q)
    : hasSuffix (s ++ a :: p) (a :: q) = true ↔ p = q :=
  Affix.isSuffixOf_cons_iff hp hq

end Go.bytes

namespace Go.bufio

-- `bufio.MaxScanTokenSize`, the buffer limit of `bufio.NewScanner`
def maxScanTokenSize : Nat :=
  64 * 1024

-- the length of a line in UTF-8, as the buffer holds it
def utf8Len : List Char → Nat
  | [] => 0
  | c :: cs => c.utf8Size + utf8Len cs

theorem utf8Len_replicate (n : Nat) (c : Char) : utf8Len (List.replicate n c) = n * c.utf8Size := by
  induction n with
  | zero => rw [List.replicate_zero, utf8Len, Nat.zero_mul]
  | succ n ih =>
    rw [List.replicate_succ, utf8Len, ih, Nat.succ_mul, Nat.add_comm]

-- `dropCR`
def dropCR (data : List Char) : List Char :=
  if data.getLast? = some '\r' then data.dropLast else data

/--
`ScanLines` applied until the input is used up: `line` holds the runes of the current line,
which a `'\n'` ends, and what follows the last `'\n'` is a final line when it is not empty.
The lines still hold their `'\r'`, which the buffer holds too.
-/
def scanLinesLoop : List Char → List Char → List (List Char)
  | line, [] => if line.isEmpty then [] else [line]
  | line, c :: data =>
    if c = '\n' then line :: scanLinesLoop [] data else scanLinesLoop (line ++ [c]) data

/--
The tokens that `Scan` yields with `ScanLines` until it returns false: the lines up to the
first that does not fit in the buffer with the byte after it, each without its `'\r'`.
-/
def tokens (maxTokenSize : Nat) (data : List Char) : List (List Char) :=
  ((scanLinesLoop [] data).takeWhile (fun line => decide (utf8Len line < maxTokenSize))).map dropCR

theorem scanLinesLoop_append_newline (line l rest : List Char) (hl : '\n' ∉ l)
    : scanLinesLoop line (l ++ '\n' :: rest) = (line ++ l) :: scanLinesLoop [] rest := by
  induction l generalizing line with
  | nil => simp [scanLinesLoop]
  | cons c l ih =>
    have hc : c ≠ '\n' := fun h => hl (h ▸ List.mem_cons_self)
    rw [List.cons_append, scanLinesLoop, if_neg hc, ih _ (fun h => hl (List.mem_cons_of_mem c h))]
    simp

theorem scanLinesLoop_lines (ls : List (List Char)) (rest : List Char)
    (hls : ∀ l ∈ ls, '\n' ∉ l)
    : scanLinesLoop [] (ls.flatMap (· ++ ['\n']) ++ rest) = ls ++ scanLinesLoop [] rest := by
  induction ls with
  | nil => rfl
  | cons l ls ih =>
    rw [List.flatMap_cons, List.append_assoc, List.append_assoc, List.singleton_append,
      scanLinesLoop_append_newline [] l _ (hls l List.mem_cons_self),
      ih (fun l' hl' => hls l' (List.mem_cons_of_mem l hl'))]
    rfl

theorem dropCR_of_getLast?_ne {l : List Char} (h : l.getLast? ≠ some '\r') : dropCR l = l := by
  rw [dropCR, if_neg h]

theorem tokens_lines (maxTokenSize : Nat) (ls : List (List Char)) (rest : List Char)
    (hls : ∀ l ∈ ls, '\n' ∉ l) (hcr : ∀ l ∈ ls, l.getLast? ≠ some '\r')
    (hfit : ∀ l ∈ ls, utf8Len l < maxTokenSize)
    : tokens maxTokenSize (ls.flatMap (· ++ ['\n']) ++ rest) = ls ++ tokens maxTokenSize rest := by
  unfold tokens
  rw [scanLinesLoop_lines ls rest hls, List.takeWhile_append_of_pos (by simpa using hfit),
    List.map_append]
  congr 1
  exact (List.map_congr_left (fun l hl => dropCR_of_getLast?_ne (hcr l hl))).trans (List.map_id _)

theorem tokens_long_line (maxTokenSize : Nat) (long rest : List Char) (hl : '\n' ∉ long)
    (hlong : maxTokenSize ≤ utf8Len long)
    : tokens maxTokenSize (long ++ '\n' :: rest) = [] := by
  unfold tokens
  rw [scanLinesLoop_append_newline [] long rest hl, List.nil_append,
    List.takeWhile_cons_of_neg (by simpa using hlong)]
  rfl

end Go.bufio
