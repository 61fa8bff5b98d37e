import Mathlib.Data.List.TakeDrop

/-!
Decimal numerals as lists of characters. This module defines the value of a run of ASCII
digits and proves that the numerals `Nat.toDigits 10` and `Int.repr` print are read back
from the front of a longer text: the digit run stops exactly where the numeral ends, and its
value is the number printed. The numerals `Nat.toDigits b` prints in a base up to 16 are read
back by `valueIn`.
-/

namespace Decimal

def valueFrom (acc : Nat) (ds : List Char) : Nat :=
  ds.foldl (fun n c => 10 * n + (c.toNat - '0'.toNat)) acc

/--
The value of a run of ASCII digits, most significant first.
-/
def value (ds : List Char) : Nat :=
  valueFrom 0 ds

@[simp]
theorem valueFrom_nil (acc : Nat) : valueFrom acc [] = acc := rfl

theorem value_append_singleton (ds : List Char) (c : Char) :
    value (ds ++ [c]) = 10 * value ds + (c.toNat - '0'.toNat) := by
  simp [value, valueFrom]

theorem value_toDigits (n : Nat) : value (Nat.toDigits 10 n) = n := by
  induction n using Nat.strongRecOn with
  | ind n ih =>
    rw [Nat.toDigits_eq_if (by decide)]
    split
    . next hlt =>
      simp [value, valueFrom, Nat.toNat_digitChar_sub_48_of_lt_ten hlt]
    . next hge =>
      have hdiv : n / 10 < n := Nat.div_lt_self (by omega) (by decide)
      rw [value_append_singleton, ih (n / 10) hdiv]
      have hmod : (Nat.digitChar (n % 10)).toNat - '0'.toNat = n % 10 :=
        Nat.toNat_digitChar_sub_48_of_lt_ten (Nat.mod_lt n (by decide))
      rw [hmod]
      omega

theorem isDigit_of_mem_toDigits {n : Nat} {c : Char} (h : c ∈ Nat.toDigits 10 n) :
    c.isDigit = true :=
  Nat.isDigit_of_mem_toDigits (by decide) (by decide) h

def NotStartsWith (p : Char → Bool) (rest : List Char) : Prop :=
  ∀ c ∈ rest.head?, p c = false

instance (p : Char → Bool) (rest : List Char) : Decidable (NotStartsWith p rest) :=
  inferInstanceAs (Decidable (∀ c ∈ rest.head?, p c = false))

theorem notStartsWith_nil (p : Char → Bool) : NotStartsWith p [] := by
  simp [NotStartsWith]

theorem notStartsWith_cons {p : Char → Bool} {c : Char} {rest : List Char} :
    NotStartsWith p (c :: rest) ↔ p c = false := by
  simp [NotStartsWith]

variable {p : Char → Bool}

theorem takeWhile_append_of_notStartsWith {xs rest : List Char} (hxs : ∀ c ∈ xs, p c = true)
    (hrest : NotStartsWith p rest) : (xs ++ rest).takeWhile p = xs := by
  rw [List.takeWhile_append_of_pos hxs]
  cases rest with
  | nil => simp
  | cons c rest =>
    rw [notStartsWith_cons] at hrest
    simp [hrest]

theorem dropWhile_append_of_notStartsWith {xs rest : List Char} (hxs : ∀ c ∈ xs, p c = true)
    (hrest : NotStartsWith p rest) : (xs ++ rest).dropWhile p = rest := by
  rw [List.dropWhile_append_of_pos hxs]
  cases rest with
  | nil => simp
  | cons c rest =>
    rw [notStartsWith_cons] at hrest
    simp [hrest]

theorem takeWhile_toDigits_append {n : Nat} {rest : List Char}
    (hrest : NotStartsWith Char.isDigit rest) :
    (Nat.toDigits 10 n ++ rest).takeWhile Char.isDigit = Nat.toDigits 10 n :=
  takeWhile_append_of_notStartsWith (fun _ hc => isDigit_of_mem_toDigits hc) hrest

theorem dropWhile_toDigits_append {n : Nat} {rest : List Char}
    (hrest : NotStartsWith Char.isDigit rest) :
    (Nat.toDigits 10 n ++ rest).dropWhile Char.isDigit = rest :=
  dropWhile_append_of_notStartsWith (fun _ hc => isDigit_of_mem_toDigits hc) hrest

theorem toList_intRepr (x : Int) :
    x.repr.toList = (if x < 0 then ['-'] else []) ++ Nat.toDigits 10 x.natAbs := by
  cases x with
  | ofNat m => simp [Int.repr]
  | negSucc m =>
    have hneg : Int.negSucc m < 0 := Int.negSucc_lt_zero m
    simp [Int.repr, hneg, String.toList_append]

section base

/-- The value of a digit `Nat.digitChar` prints for a number below 16. -/
def digitValue (c : Char) : Nat :=
  if c.isDigit then c.toNat - '0'.toNat else c.toNat - 'a'.toNat + 10

theorem digitValue_digitChar {d : Nat} (hd : d < 16) : digitValue (Nat.digitChar d) = d := by
  have hall : ∀ d < 16, digitValue (Nat.digitChar d) = d := by decide
  exact hall d hd

/-- The value of a numeral in base `b`, most significant digit first. -/
def valueIn (b : Nat) (ds : List Char) : Nat :=
  ds.foldl (fun n c => b * n + digitValue c) 0

theorem valueIn_append_singleton (b : Nat) (ds : List Char) (c : Char) :
    valueIn b (ds ++ [c]) = b * valueIn b ds + digitValue c := by
  simp [valueIn, List.foldl_append]

theorem valueIn_toDigits {b : Nat} (hb : 1 < b) (hb16 : b ≤ 16) (n : Nat) :
    valueIn b (Nat.toDigits b n) = n := by
  induction n using Nat.strongRecOn with
  | ind n ih =>
    rw [Nat.toDigits_eq_if hb]
    split
    . next hlt =>
      simp [valueIn, digitValue_digitChar (Nat.lt_of_lt_of_le hlt hb16)]
    . next hge =>
      have hdiv : n / b < n := Nat.div_lt_self (by omega) hb
      have hmod : n % b < 16 := Nat.lt_of_lt_of_le (Nat.mod_lt n (by omega)) hb16
      rw [valueIn_append_singleton, ih (n / b) hdiv, digitValue_digitChar hmod]
      exact Nat.div_add_mod n b

theorem valueIn_zero_cons (b : Nat) (ds : List Char) : valueIn b ('0' :: ds) = valueIn b ds := by
  rw [valueIn, List.foldl_cons, Nat.mul_zero, show digitValue '0' = 0 from rfl]
  rfl

end base

end Decimal
