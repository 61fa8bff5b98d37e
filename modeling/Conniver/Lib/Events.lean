import Mathlib.Algebra.Ring.Int.Defs
import Mathlib.Algebra.Order.BigOperators.Group.List

/-!
Registers written by a stream of events. An event may carry a value for a register
(`sel a = some b`). An overwritten register ends with the value of the last event that
carries one; a log ends with every value carried, in order; a latched register takes the first value offered while it holds its unset
value and keeps it; a signed 64-bit counter of nonnegative increments is the integer sum of
the increments as long as that sum stays below `2 ^ 63`. Events of one kind that carry a
clock value read a subsequence of all the clock values, so the order of the clock carries
over to them.
-/

namespace Events

variable {α β : Type _} (sel : α → Option β)

-- every event that carries a value replaces the register's value
def overwrite (x : β) (a : α) : β :=
  (sel a).getD x

theorem foldl_overwrite (l : List α) (x : β)
    : l.foldl (overwrite sel) x = ((l.filterMap sel).getLast?).getD x := by
  induction l generalizing x with
  | nil => rfl
  | cons a l ih =>
    rw [List.foldl_cons, ih, List.filterMap_cons]
    cases h : sel a with
    | none => simp [overwrite, h]
    | some b => simp [overwrite, h, List.getLast?_cons]

-- every event that carries a value appends it to a log
def append (xs : List β) (a : α) : List β :=
  xs ++ (sel a).toList

theorem foldl_append (l : List α) (xs : List β) : l.foldl (append sel) xs = xs ++ l.filterMap sel := by
  induction l generalizing xs with
  | nil => simp
  | cons a l ih =>
    rw [List.foldl_cons, ih, List.filterMap_cons, append]
    cases sel a <;> simp

section latch

variable [DecidableEq β] (z : β)

-- while the register holds the unset value `z`, an event that carries a value sets it
def latch (x : β) (a : α) : β :=
  if x = z then (sel a).getD z else x

theorem foldl_latch {sel : α → Option β} {z : β} (l : List α) (hz : ∀ a ∈ l, sel a ≠ some z)
    (x : β) : l.foldl (latch sel z) x = if x = z then ((l.filterMap sel).head?).getD z else x := by
  induction l generalizing x with
  | nil => by_cases hx : x = z <;> simp [hx]
  | cons a l ih =>
    rw [List.foldl_cons, ih (fun b hb => hz b (List.mem_cons_of_mem a hb)), List.filterMap_cons]
    by_cases hx : x = z
    . cases h : sel a with
      | none => simp [latch, hx, h]
      | some b =>
        -- the first value offered is not the unset one, so the register stays set
        have hb : b ≠ z := fun hbz => hz a List.mem_cons_self (hbz ▸ h)
        simp [latch, hx, h, hb]
    . simp [latch, hx]

end latch

section counter

theorem toInt_foldl_add (f : α → Int64) (l : List α) (x : Int64)
    (hx : 0 ≤ x.toInt) (hf : ∀ a ∈ l, 0 ≤ (f a).toInt)
    (hsum : x.toInt + (l.map fun a => (f a).toInt).sum < 2 ^ 63)
    : (l.foldl (fun acc a => acc + f a) x).toInt = x.toInt + (l.map fun a => (f a).toInt).sum := by
  induction l generalizing x with
  | nil => simp
  | cons a l ih =>
    have hrest : 0 ≤ (l.map fun a => (f a).toInt).sum := by
      apply List.sum_nonneg
      intro v hv
      obtain ⟨b, hb, rfl⟩ := List.mem_map.1 hv
      exact hf b (List.mem_cons_of_mem a hb)
    have ha : 0 ≤ (f a).toInt := hf a List.mem_cons_self
    rw [List.map_cons, List.sum_cons] at hsum
    have hstep : (x + f a).toInt = x.toInt + (f a).toInt := by
      rw [Int64.toInt_add]
      apply Int.bmod_eq_of_le <;> omega
    rw [List.foldl_cons, ih (x + f a) (by omega) (fun b hb => hf b (List.mem_cons_of_mem a hb))
      (by omega), hstep, List.map_cons, List.sum_cons]
    omega

end counter

section clock

theorem filterMap_sublist_of_imp (clock : α → Option β)
    (h : ∀ a b, sel a = some b → clock a = some b) (l : List α)
    : (l.filterMap sel).Sublist (l.filterMap clock) := by
  induction l with
  | nil => simp
  | cons a l ih =>
    rw [List.filterMap_cons]
    cases hs : sel a with
    | none =>
      simp only
      rw [List.filterMap_cons]
      split
      . exact ih
      . exact List.Sublist.cons _ ih
    | some b =>
      rw [List.filterMap_cons, h a b hs]
      exact List.Sublist.cons_cons _ ih

variable {r : β → β → Prop}

theorem head_le_getLast_of_pairwise (hrefl : ∀ c, r c c) {l : List β} (hl : l.Pairwise r)
    (hne : l ≠ []) : r (l.head hne) (l.getLast hne) := by
  cases l with
  | nil => contradiction
  | cons c l =>
    rw [List.pairwise_cons] at hl
    by_cases hnil : l = []
    . subst hnil
      exact hrefl c
    . rw [List.head_cons, List.getLast_cons hnil]
      exact hl.1 _ (List.getLast_mem hnil)

end clock

end Events
