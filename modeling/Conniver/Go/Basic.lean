import Mathlib.Algebra.Group.Nat.Defs
import Mathlib.Algebra.Group.Int.Defs
import Mathlib.Data.List.Basic

/-!
The parts of Go's runtime and standard library that the code relies on: `error` values and
the `net.Error` type assertion, `time.Duration` and its unit constants, and string-keyed
maps. Go's `int64` and `time.Duration` are `Int64`, whose arithmetic wraps as Go's does.
-/

namespace Go

/--
A Go `error` value, as far as the code inspects it: the text `Error()` returns, and whether
the value is a `net.Error` and, if it is, what its `Timeout()` says.
-/
inductive Error where
  | net (msg : String) (timeout : Bool)
  | other (msg : String)
  deriving DecidableEq, Repr

namespace Error

def error : Error → String
  | .net msg _ => msg
  | .other msg => msg

def asNetError : Error → Option Bool
  | .net _ timeout => some timeout
  | .other _ => none

end Error

-- `m[k]` on a map that is not assigned to: the entry of `k`, or the zero value of the
-- element type when there is none.
def index {K V : Type} [BEq K] [Inhabited V] (m : List (K × V)) (k : K) : V :=
  (m.lookup k).getD default

namespace time

def Nanosecond : Int64 := 1
def Microsecond : Int64 := 1000 * Nanosecond
def Millisecond : Int64 := 1000 * Microsecond

end time

theorem toInt_ofNat_mul_ofNat {n k : Nat} (h : n * k < 2 ^ 63) :
    (Int64.ofNat n * Int64.ofNat k).toInt = n * k := by
  rcases Nat.eq_zero_or_pos n with rfl | hn
  . simp
  rcases Nat.eq_zero_or_pos k with rfl | hk
  . simp
  have hk63 : k < 2 ^ 63 := Nat.lt_of_le_of_lt (Nat.le_mul_of_pos_left k hn) h
  have hn63 : n < 2 ^ 63 := Nat.lt_of_le_of_lt (Nat.le_mul_of_pos_right n hk) h
  have hprod : (n : Int) * k < 2 ^ 63 := by exact_mod_cast h
  have hnonneg : (0 : Int) ≤ n * k := by exact_mod_cast Nat.zero_le (n * k)
  have h64 : ((2 ^ 64 : Nat) : Int) = 2 * 2 ^ 63 := by decide
  rw [Int64.toInt_mul, Int64.toInt_ofNat_of_lt hn63, Int64.toInt_ofNat_of_lt hk63]
  apply Int.bmod_eq_of_le <;> rw [h64] <;> omega

/--
A Go `map[string]V`, by its entries. The code builds maps from literals, whose keys are
distinct, and by assignments `m[k] = v`, which replace the entry of `k`.
-/
structure Map (V : Type) where
  entries : List (String × V)

namespace Map

variable {V : Type}

def insert (m : Map V) (k : String) (v : V) : Map V :=
  ⟨(k, v) :: m.entries.filter (fun e => e.1 != k)⟩

def keys (m : Map V) : List String :=
  m.entries.map Prod.fst

def get? (m : Map V) (k : String) : Option V :=
  m.entries.lookup k

@[simp]
theorem mem_keys_insert {m : Map V} {k k' : String} {v : V} :
    k' ∈ (m.insert k v).keys ↔ k' = k ∨ k' ∈ m.keys := by
  simp only [insert, keys, List.map_cons, List.mem_cons, List.mem_map, List.mem_filter,
    bne_iff_ne, ne_eq]
  constructor
  . rintro (h | ⟨e, ⟨he, _⟩, rfl⟩)
    . exact Or.inl h
    . exact Or.inr ⟨e, he, rfl⟩
  . rintro (h | ⟨e, he, rfl⟩)
    . exact Or.inl h
    . by_cases hk : e.1 = k
      . exact Or.inl hk
      . exact Or.inr ⟨e, ⟨he, hk⟩, rfl⟩

theorem lookup_filter_ne (es : List (String × V)) {k k' : String} (hk : k' ≠ k)
    : (es.filter (fun e => e.1 != k)).lookup k' = es.lookup k' := by
  induction es with
  | nil => rfl
  | cons e es ih =>
    by_cases he : e.1 = k
    . rw [List.filter_cons_of_neg (by simp [he]), ih, List.lookup_cons,
        beq_false_of_ne (fun h => hk (h.trans he))]
    . rw [List.filter_cons_of_pos (by simp [he]), List.lookup_cons, List.lookup_cons, ih]

theorem get?_insert (m : Map V) (k k' : String) (v : V)
    : (m.insert k v).get? k' = if k' = k then some v else m.get? k' := by
  by_cases hk : k' = k
  . subst hk
    simp [insert, get?]
  . rw [if_neg hk, get?, insert, List.lookup_cons, beq_false_of_ne hk]
    exact lookup_filter_ne m.entries hk

def insertIf (m : Map V) (c : Bool) (k : String) (v : V) : Map V :=
  if c then m.insert k v else m

@[simp]
theorem mem_keys_insertIf {m : Map V} {c : Bool} {k k' : String} {v : V} :
    k' ∈ (m.insertIf c k v).keys ↔ (c = true ∧ k' = k) ∨ k' ∈ m.keys := by
  cases c <;> simp [insertIf]

-- a run of conditional assignments `if c { m[k] = v }`
theorem mem_keys_foldl_insertIf (es : List (Bool × String × V)) (m : Map V) (k : String)
    : k ∈ (es.foldl (fun m e => m.insertIf e.1 e.2.1 e.2.2) m).keys ↔
        (∃ e ∈ es, e.1 = true ∧ e.2.1 = k) ∨ k ∈ m.keys := by
  induction es generalizing m with
  | nil => simp
  | cons e es ih =>
    rw [List.foldl_cons, ih, mem_keys_insertIf]
    constructor
    . rintro (⟨e', he', hv, hk⟩ | ⟨hv, rfl⟩ | hm)
      . exact Or.inl ⟨e', List.mem_cons_of_mem e he', hv, hk⟩
      . exact Or.inl ⟨e, List.mem_cons_self, hv, rfl⟩
      . exact Or.inr hm
    . rintro (⟨e', he', hv, hk⟩ | hm)
      . rcases List.mem_cons.1 he' with rfl | he'
        . exact Or.inr (Or.inl ⟨hv, hk.symm⟩)
        . exact Or.inl ⟨e', he', hv, hk⟩
      . exact Or.inr (Or.inr hm)

-- `if x != nil { m[k] = f(x) }`
def insertSome {α : Type} (m : Map V) (k : String) (f : α → V) : Option α → Map V
  | some x => m.insert k (f x)
  | none => m

@[simp]
theorem mem_keys_insertSome {α : Type} {m : Map V} {k k' : String} {f : α → V} {x : Option α} :
    k' ∈ (m.insertSome k f x).keys ↔ (x.isSome = true ∧ k' = k) ∨ k' ∈ m.keys := by
  cases x <;> simp [insertSome]

end Map

end Go
