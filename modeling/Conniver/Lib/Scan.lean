import Mathlib.Data.List.Basic

/-!
A table scanned for the first entry that passes a threshold test. When the test can only
switch one way along the list, the entries a scan skips are exactly the failing ones, the
entries from the hit on are exactly the passing ones, and whether an entry passes is read
off its position.
-/

namespace Scan

variable {α : Type _} (p : α → Bool)

theorem takeWhile_not_eq_filter {l : List α} (h : l.Pairwise (fun a b => p a → p b))
    : l.takeWhile (fun a => !p a) = l.filter (fun a => !p a) := by
  induction l with
  | nil => rfl
  | cons a l ih =>
    rw [List.pairwise_cons] at h
    by_cases ha : p a
    . have hrest : l.filter (fun a => !p a) = [] := by
        rw [List.filter_eq_nil_iff]
        intro b hb
        simp [h.1 b hb ha]
      simp [ha, hrest]
    . simp [ha, ih h.2]

theorem dropWhile_not_eq_filter {l : List α} (h : l.Pairwise (fun a b => p a → p b))
    : l.dropWhile (fun a => !p a) = l.filter p := by
  induction l with
  | nil => rfl
  | cons a l ih =>
    rw [List.pairwise_cons] at h
    by_cases ha : p a
    . have hrest : l.filter p = l := by
        rw [List.filter_eq_self]
        intro b hb
        exact h.1 b hb ha
      simp [ha, hrest]
    . simp [ha, ih h.2]

theorem filter_eq_takeWhile {l : List α} (h : l.Pairwise (fun a b => p b → p a))
    : l.filter p = l.takeWhile p := by
  induction l with
  | nil => rfl
  | cons a l ih =>
    rw [List.pairwise_cons] at h
    by_cases ha : p a
    . simp [ha, ih h.2]
    . have hrest : l.filter p = [] := by
        rw [List.filter_eq_nil_iff]
        intro b hb hpb
        exact ha (h.1 b hb hpb)
      simp [ha, hrest]

theorem filter_eq_take {l : List α} (h : l.Pairwise (fun a b => p b → p a))
    : l.filter p = l.take (l.filter p).length := by
  rw [filter_eq_takeWhile p h]
  exact List.prefix_iff_eq_take.1 (List.takeWhile_prefix p)

theorem pass_iff_lt_length_filter {l : List α} (h : l.Pairwise (fun a b => p b → p a))
    (i : Nat) (hi : i < l.length) : p l[i] = true ↔ i < (l.filter p).length := by
  rw [filter_eq_takeWhile p h]
  induction l generalizing i with
  | nil => simp at hi
  | cons a l ih =>
    rw [List.pairwise_cons] at h
    cases i with
    | zero => by_cases ha : p a <;> simp [ha]
    | succ i =>
      have hil : i < l.length := by simpa using hi
      by_cases ha : p a
      . simp only [List.getElem_cons_succ, List.takeWhile_cons, ha, if_true, List.length_cons]
        rw [ih h.2 i hil]
        omega
      . have hfail : p l[i] = false := by
          by_contra hpi
          exact ha (h.1 _ (List.getElem_mem hil) (by simpa using hpi))
        simp [ha, hfail]

theorem find?_reverse_eq_getLast?_filter (l : List α)
    : l.reverse.find? p = (l.filter p).getLast? := by
  rw [List.getLast?_eq_head?_reverse, ← List.filter_reverse, List.head?_filter]

theorem le_getLast_of_pairwise {β : Type _} {r : β → β → Prop} (hrefl : ∀ b, r b b) {l : List β}
    (hl : l.Pairwise r) (hne : l ≠ []) : ∀ b ∈ l, r b (l.getLast hne) := by
  intro b hb
  rw [← List.dropLast_append_getLast hne, List.pairwise_append] at hl
  rw [← List.dropLast_append_getLast hne, List.mem_append] at hb
  rcases hb with hinit | hlast
  . exact hl.2.2 b hinit _ List.mem_cons_self
  . rw [List.mem_singleton] at hlast
    rw [hlast]
    exact hrefl _

section collect

variable {β γ : Type _} (f : α → β) (g : α → γ)

-- the loop that appends one entry to each of two lists for every row that passes
def collectStep (acc : List β × List γ) (a : α) : List β × List γ :=
  if p a then (acc.1 ++ [f a], acc.2 ++ [g a]) else acc

theorem foldl_collectStep (l : List α) (acc : List β × List γ)
    : l.foldl (collectStep p f g) acc =
        (acc.1 ++ (l.filter p).map f, acc.2 ++ (l.filter p).map g) := by
  induction l generalizing acc with
  | nil => simp
  | cons a l ih =>
    rw [List.foldl_cons, ih]
    by_cases ha : p a
    . simp [collectStep, ha]
    . simp [collectStep, ha]

end collect

end Scan
