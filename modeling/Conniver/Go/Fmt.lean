import Mathlib.Algebra.Group.Nat.Defs
import Mathlib.Algebra.Group.Int.Defs
import Conniver.Lib.Decimal

/-!
Go's `fmt.Sscanf`, for the formats the code scans with: literal runes and the verbs `%d`
(into an `int`, which is `int64` on the platforms modelled) and `%s` (into a `string`).
The scanner follows `fmt/scan.go`: every verb but `%c` skips white space first, a newline
met while skipping is an error, `%d` reads an optional sign and a maximal run of ASCII
digits and checks the range with `strconv.ParseInt`, `%s` reads a maximal run of non-space
runes, and the first error ends the scan. `Sscanf` returns the values it stored, in
order; their number is the count Go returns. Go strings are `String`s here, so input that
is not valid UTF-8 is out of scope, and so is the limit of `1 << 30` runes a scan reads.
-/

namespace Go.fmt

def isSpace (r : Char) : Bool :=
  let v := r.toNat
  (0x0009 ≤ v && v ≤ 0x000d) || v == 0x0020 || v == 0x0085 || v == 0x00a0 || v == 0x1680 ||
    (0x2000 ≤ v && v ≤ 0x200a) || v == 0x2028 || v == 0x2029 || v == 0x202f || v == 0x205f ||
    v == 0x3000

def formatInt (x : Int64) : String :=
  x.toInt.repr

inductive Verb where
  | lit (c : Char)
  | d
  | s
  deriving DecidableEq, Repr

-- `eof` is `io.EOF` from `notEOF`, `unexpectedEOF` is `io.ErrUnexpectedEOF` from
-- `mustReadRune` on a literal, and `outOfRange` the `*strconv.NumError` of `ParseInt`.
inductive ScanError where
  | eof
  | unexpectedEOF
  | inputMismatch
  | expectedInteger
  | unexpectedNewline
  | outOfRange (tok : String)
  deriving DecidableEq, Repr

inductive Value where
  | int (i : Int64)
  | str (s : String)
  deriving DecidableEq, Repr

/--
`(*ss).SkipSpace`: skip white space. `Sscanf` does not count a newline as space, so meeting
one is an error; a `\r` right before it is skipped first.
-/
def skipSpace : List Char → Except ScanError (List Char)
  | [] => .ok []
  | r :: rest =>
    if r = '\r' ∧ rest.head? = some '\n' then skipSpace rest
    else if r = '\n' then .error .unexpectedNewline
    else if isSpace r then skipSpace rest
    else .ok (r :: rest)

def notEOF (input : List Char) : Except ScanError Unit :=
  if input.isEmpty then .error .eof else .ok ()

def signOf (tok : List Char) : Bool × List Char :=
  if tok.head? = some '+' then (false, tok.tail)
  else if tok.head? = some '-' then (true, tok.tail)
  else (false, tok)

def parseInt (tok : List Char) : Except ScanError Int64 :=
  let x : Int :=
    if (signOf tok).1 then -(Decimal.value (signOf tok).2 : Int) else (Decimal.value (signOf tok).2 : Int)
  if -2 ^ 63 ≤ x ∧ x < 2 ^ 63 then .ok (Int64.ofInt x) else .error (.outOfRange (String.ofList tok))

def acceptSign : List Char → List Char × List Char
  | c :: rest => if c = '+' ∨ c = '-' then ([c], rest) else ([], c :: rest)
  | [] => ([], [])

def scanInt (input : List Char) : Except ScanError (Int64 × List Char) := do
  let input ← skipSpace input
  notEOF input
  let (sign, input) := acceptSign input
  notEOF input
  if input.head?.all Char.isDigit then
    let tok := sign ++ input.takeWhile Char.isDigit
    let v ← parseInt tok
    return (v, input.dropWhile Char.isDigit)
  else
    throw .expectedInteger

def token (input : List Char) : Except ScanError (String × List Char) := do
  let input ← skipSpace input
  return (String.ofList (input.takeWhile (fun r => !isSpace r)),
    input.dropWhile (fun r => !isSpace r))

def convertString (input : List Char) : Except ScanError (String × List Char) := do
  let input ← skipSpace input
  notEOF input
  token input

/--
`(*ss).doScanf`: the values stored so far and the error the scan ended with, if any. A
literal that meets the end of the input is `io.ErrUnexpectedEOF`; before a verb the input's
leading space is skipped.
-/
def doScanf : List Char → List Verb → List Value → List Value × Option ScanError
  | _, [], vals => (vals, none)
  | [], .lit _ :: _, vals => (vals, some .unexpectedEOF)
  | r :: rest, .lit c :: format, vals =>
    if r = c then doScanf rest format vals else (vals, some .inputMismatch)
  | input, .d :: format, vals =>
    match skipSpace input >>= scanInt with
    | .ok (v, rest) => doScanf rest format (vals ++ [.int v])
    | .error e => (vals, some e)
  | input, .s :: format, vals =>
    match skipSpace input >>= convertString with
    | .ok (v, rest) => doScanf rest format (vals ++ [.str v])
    | .error e => (vals, some e)

def Sscanf (str : String) (format : List Verb) : List Value × Option ScanError :=
  doScanf str.toList format []

/-! ## Spec lemmas of the scanner pieces -/

theorem isSpace_of_isDigit {c : Char} (h : c.isDigit = true) : isSpace c = false := by
  have hc := Char.isDigit_iff_toNat.mp h
  simp only [Char.reduceToNat] at hc
  simp only [isSpace, Bool.or_eq_false_iff, Bool.and_eq_false_imp, decide_eq_true_eq,
    beq_eq_false_iff_ne, ne_eq, decide_eq_false_iff_not, Nat.not_le]
  omega

theorem skipSpace_cons_of_not_isSpace {c : Char} {rest : List Char} (h : isSpace c = false) :
    skipSpace (c :: rest) = .ok (c :: rest) := by
  have hr : c ≠ '\r' := by
    rintro rfl
    exact absurd h (by decide)
  have hn : c ≠ '\n' := by
    rintro rfl
    exact absurd h (by decide)
  simp [skipSpace, hr, hn, h]

theorem skipSpace_of_notStartsWith {input : List Char}
    (h : Decimal.NotStartsWith isSpace input) : skipSpace input = .ok input := by
  cases input with
  | nil => rfl
  | cons c rest => exact skipSpace_cons_of_not_isSpace (Decimal.notStartsWith_cons.mp h)

theorem notEOF_cons (c : Char) (rest : List Char) : notEOF (c :: rest) = .ok () := rfl

theorem acceptSign_of_isDigit {c : Char} {rest : List Char} (h : c.isDigit = true) :
    acceptSign (c :: rest) = ([], c :: rest) := by
  have hp : c ≠ '+' := by
    rintro rfl
    exact absurd h (by decide)
  have hm : c ≠ '-' := by
    rintro rfl
    exact absurd h (by decide)
  simp [acceptSign, hp, hm]

theorem acceptSign_minus (rest : List Char) : acceptSign ('-' :: rest) = (['-'], rest) := by
  simp [acceptSign]

theorem signOf_minus (ds : List Char) : signOf ('-' :: ds) = (true, ds) := by
  simp [signOf]

theorem signOf_of_isDigit {c : Char} {ds : List Char} (h : c.isDigit = true) :
    signOf (c :: ds) = (false, c :: ds) := by
  have hp : c ≠ '+' := by
    rintro rfl
    exact absurd h (by decide)
  have hm : c ≠ '-' := by
    rintro rfl
    exact absurd h (by decide)
  simp [signOf, hp, hm]

theorem exists_toDigits_eq_cons (n : Nat) :
    ∃ c cs, Nat.toDigits 10 n = c :: cs ∧ c.isDigit = true := by
  obtain ⟨c, cs, hcs⟩ := List.exists_cons_of_ne_nil (Nat.toDigits_ne_nil (n := n) (b := 10))
  refine ⟨c, cs, hcs, Decimal.isDigit_of_mem_toDigits (n := n) ?_⟩
  rw [hcs]
  exact List.mem_cons_self

section toDigits

variable (n : Nat) (rest : List Char)

theorem skipSpace_toDigits_append :
    skipSpace (Nat.toDigits 10 n ++ rest) = .ok (Nat.toDigits 10 n ++ rest) := by
  obtain ⟨c, cs, hcs, hc⟩ := exists_toDigits_eq_cons n
  rw [hcs, List.cons_append]
  exact skipSpace_cons_of_not_isSpace (isSpace_of_isDigit hc)

theorem notEOF_toDigits_append : notEOF (Nat.toDigits 10 n ++ rest) = .ok () := by
  obtain ⟨c, cs, hcs, _⟩ := exists_toDigits_eq_cons n
  rw [hcs, List.cons_append]
  rfl

theorem acceptSign_toDigits_append :
    acceptSign (Nat.toDigits 10 n ++ rest) = ([], Nat.toDigits 10 n ++ rest) := by
  obtain ⟨c, cs, hcs, hc⟩ := exists_toDigits_eq_cons n
  rw [hcs, List.cons_append]
  exact acceptSign_of_isDigit hc

theorem signOf_toDigits : signOf (Nat.toDigits 10 n) = (false, Nat.toDigits 10 n) := by
  obtain ⟨c, cs, hcs, hc⟩ := exists_toDigits_eq_cons n
  rw [hcs]
  exact signOf_of_isDigit hc

theorem head?_toDigits_append_all_isDigit :
    (Nat.toDigits 10 n ++ rest).head?.all Char.isDigit = true := by
  obtain ⟨c, cs, hcs, hc⟩ := exists_toDigits_eq_cons n
  rw [hcs, List.cons_append]
  simp [hc]

end toDigits

theorem parseInt_formatInt (x : Int64) :
    parseInt ((if x.toInt < 0 then ['-'] else []) ++ Nat.toDigits 10 x.toInt.natAbs) = .ok x := by
  have hlo := x.le_toInt
  have hhi := x.toInt_lt
  have hmin : Int64.minValue.toInt = -2 ^ 63 := by decide
  have hvalue := Decimal.value_toDigits x.toInt.natAbs
  by_cases hneg : x.toInt < 0
  . have hx : -((x.toInt.natAbs : Nat) : Int) = x.toInt := by omega
    rw [if_pos hneg, List.singleton_append, parseInt]
    simp only [signOf_minus, if_true, hvalue, hx]
    rw [if_pos (by omega), Int64.ofInt_toInt]
  . have hx : ((x.toInt.natAbs : Nat) : Int) = x.toInt := by omega
    rw [if_neg hneg, List.nil_append, parseInt]
    simp only [signOf_toDigits, Bool.false_eq_true, if_false, hvalue, hx]
    rw [if_pos (by omega), Int64.ofInt_toInt]

theorem scanInt_formatInt_append (x : Int64) {rest : List Char}
    (hrest : Decimal.NotStartsWith Char.isDigit rest) :
    scanInt ((formatInt x).toList ++ rest) = .ok (x, rest) := by
  have htake := Decimal.takeWhile_toDigits_append (n := x.toInt.natAbs) hrest
  have hdrop := Decimal.dropWhile_toDigits_append (n := x.toInt.natAbs) hrest
  have hparse := parseInt_formatInt x
  rw [formatInt, Decimal.toList_intRepr, List.append_assoc]
  by_cases hneg : x.toInt < 0
  . simp only [hneg, if_true] at hparse ⊢
    rw [List.singleton_append, scanInt, skipSpace_cons_of_not_isSpace (by decide)]
    simp only [bind, Except.bind, notEOF_cons, acceptSign_minus, notEOF_toDigits_append,
      head?_toDigits_append_all_isDigit, if_true, htake, hdrop, hparse]
    rfl
  . simp only [hneg, if_false, List.nil_append] at hparse ⊢
    rw [scanInt, skipSpace_toDigits_append]
    simp only [bind, Except.bind, notEOF_toDigits_append, acceptSign_toDigits_append,
      head?_toDigits_append_all_isDigit, if_true, List.nil_append, htake, hdrop, hparse]
    rfl

theorem skipSpace_formatInt_append (x : Int64) (rest : List Char) :
    skipSpace ((formatInt x).toList ++ rest) = .ok ((formatInt x).toList ++ rest) := by
  rw [formatInt, Decimal.toList_intRepr, List.append_assoc]
  split
  . rw [List.singleton_append]
    exact skipSpace_cons_of_not_isSpace (by decide)
  . rw [List.nil_append]
    exact skipSpace_toDigits_append _ rest

theorem isSpace_of_mem_formatInt {x : Int64} {c : Char} (h : c ∈ (formatInt x).toList) :
    isSpace c = false := by
  rw [formatInt, Decimal.toList_intRepr, List.mem_append] at h
  rcases h with h | h
  . split at h
    . rw [List.mem_singleton] at h
      subst h
      decide
    . simp at h
  . exact isSpace_of_isDigit (Decimal.isDigit_of_mem_toDigits h)

theorem convertString_of_forall_not_isSpace {w : List Char} (hw : ∀ c ∈ w, isSpace c = false)
    (hne : w ≠ []) : convertString w = .ok (String.ofList w, []) := by
  obtain ⟨c, cs, rfl⟩ := List.exists_cons_of_ne_nil hne
  have hc : isSpace c = false := hw c List.mem_cons_self
  have hall : ∀ r ∈ c :: cs, (!isSpace r) = true := by
    intro r hr
    simp [hw r hr]
  have htake := Decimal.takeWhile_append_of_notStartsWith hall (Decimal.notStartsWith_nil _)
  have hdrop := Decimal.dropWhile_append_of_notStartsWith hall (Decimal.notStartsWith_nil _)
  rw [List.append_nil] at htake hdrop
  simp only [convertString, token, bind, Except.bind, skipSpace_cons_of_not_isSpace hc,
    notEOF_cons, htake, hdrop]
  rfl

theorem convertString_nil : convertString [] = .error .eof := rfl

/-! ## `doScanf`, one piece of the format at a time -/

section doScanf

variable {input rest : List Char} {format : List Verb} {vals : List Value}

@[simp]
theorem doScanf_nil_format : doScanf input [] vals = (vals, none) := by
  cases input <;> rfl

theorem doScanf_lit_self (c : Char) :
    doScanf (c :: rest) (.lit c :: format) vals = doScanf rest format vals := by
  simp [doScanf]

theorem doScanf_lit_ne {r c : Char} (h : r ≠ c) :
    doScanf (r :: rest) (.lit c :: format) vals = (vals, some .inputMismatch) := by
  simp [doScanf, h]

theorem doScanf_lit_nil (c : Char) :
    doScanf [] (.lit c :: format) vals = (vals, some .unexpectedEOF) := rfl

theorem doScanf_d_of_ok {v : Int64} (h : (skipSpace input >>= scanInt) = .ok (v, rest)) :
    doScanf input (.d :: format) vals = doScanf rest format (vals ++ [.int v]) := by
  cases input <;> simp only [doScanf, h]

theorem doScanf_d_of_error {e : ScanError} (h : (skipSpace input >>= scanInt) = .error e) :
    doScanf input (.d :: format) vals = (vals, some e) := by
  cases input <;> simp only [doScanf, h]

theorem doScanf_s_of_ok {v : String} (h : (skipSpace input >>= convertString) = .ok (v, rest)) :
    doScanf input (.s :: format) vals = doScanf rest format (vals ++ [.str v]) := by
  cases input <;> simp only [doScanf, h]

theorem doScanf_s_of_error {e : ScanError} (h : (skipSpace input >>= convertString) = .error e) :
    doScanf input (.s :: format) vals = (vals, some e) := by
  cases input <;> simp only [doScanf, h]

theorem doScanf_d_formatInt (x : Int64) (hrest : Decimal.NotStartsWith Char.isDigit rest) :
    doScanf ((formatInt x).toList ++ rest) (.d :: format) vals =
      doScanf rest format (vals ++ [.int x]) := by
  apply doScanf_d_of_ok
  rw [skipSpace_formatInt_append]
  exact scanInt_formatInt_append x hrest

theorem doScanf_s_word {w : List Char} (hw : ∀ c ∈ w, isSpace c = false) (hne : w ≠ []) :
    doScanf w (.s :: format) vals = doScanf [] format (vals ++ [.str (String.ofList w)]) := by
  apply doScanf_s_of_ok
  obtain ⟨c, cs, rfl⟩ := List.exists_cons_of_ne_nil hne
  rw [skipSpace_cons_of_not_isSpace (hw c List.mem_cons_self)]
  exact convertString_of_forall_not_isSpace hw (List.cons_ne_nil c cs)

theorem doScanf_s_nil : doScanf [] (.s :: format) vals = (vals, some .eof) :=
  doScanf_s_of_error rfl

end doScanf

def StartsWithSignedDigit : List Char → Prop
  | c :: rest => c.isDigit = true ∨ ((c = '+' ∨ c = '-') ∧ ∃ d ∈ rest.head?, d.isDigit = true)
  | [] => False

instance (input : List Char) : Decidable (StartsWithSignedDigit input) :=
  match input with
  | c :: rest =>
    inferInstanceAs (Decidable (c.isDigit = true ∨
      ((c = '+' ∨ c = '-') ∧ ∃ d ∈ rest.head?, d.isDigit = true)))
  | [] => inferInstanceAs (Decidable False)

theorem scanInt_error_of_not_startsWithSignedDigit {input : List Char}
    (hsp : Decimal.NotStartsWith isSpace input) (h : ¬ StartsWithSignedDigit input) :
    ∃ e, scanInt input = .error e := by
  rw [scanInt, skipSpace_of_notStartsWith hsp]
  cases input with
  | nil => exact ⟨.eof, rfl⟩
  | cons c rest =>
    simp only [StartsWithSignedDigit, not_or, not_and, not_exists] at h
    obtain ⟨hc, hsign⟩ := h
    by_cases hs : c = '+' ∨ c = '-'
    . have hacc : acceptSign (c :: rest) = ([c], rest) := by simp [acceptSign, hs]
      cases rest with
      | nil => exact ⟨.eof, by simp [bind, Except.bind, hacc, notEOF]⟩
      | cons d rest =>
        have hd : d.isDigit = false := by simpa using hsign hs d
        exact ⟨.expectedInteger, by simp [bind, Except.bind, notEOF_cons, hacc, hd, throw,
          throwThe, MonadExceptOf.throw]⟩
    . have hacc : acceptSign (c :: rest) = ([], c :: rest) := by simp [acceptSign, hs]
      have hc' : c.isDigit = false := by simpa using hc
      exact ⟨.expectedInteger, by simp [bind, Except.bind, notEOF_cons, hacc, hc', throw,
        throwThe, MonadExceptOf.throw]⟩

theorem doScanf_d_of_not_startsWithSignedDigit {input : List Char} {format : List Verb}
    {vals : List Value} (hsp : Decimal.NotStartsWith isSpace input)
    (h : ¬ StartsWithSignedDigit input) : (doScanf input (.d :: format) vals).1 = vals := by
  obtain ⟨e, he⟩ := scanInt_error_of_not_startsWithSignedDigit hsp h
  rw [doScanf_d_of_error (e := e)]
  rw [skipSpace_of_notStartsWith hsp]
  exact he

end Go.fmt

namespace Go.strconv

-- `strconv.FormatUint(x, 10)`
def formatUint (x : UInt64) : String :=
  x.toNat.repr

end Go.strconv
