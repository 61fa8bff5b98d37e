import Mathlib.Data.List.DropRight
import Mathlib.Data.List.Infix

/-!
Fields joined by a separator that none of them contains. The separator then marks where a
field ends: a prefix "field, separator" of a record fixes its first field, a suffix
"separator, field" fixes its last one, and a field wrapped in a mark it neither starts nor
ends with is recovered by stripping the mark from both ends.
-/

namespace Affix

variable {α : Type _} {a : α}

theorem eq_of_append_cons_eq_left {s t p q : List α} (hs : a ∉ s) (ht : a ∉ t)
    (h : s ++ a :: p = t ++ a :: q) : s = t ∧ p = q := by
  induction s generalizing t with
  | nil =>
    cases t with
    | nil => simpa using h
    | cons b t =>
      rw [List.nil_append, List.cons_append, List.cons.injEq] at h
      exact absurd (h.1 ▸ List.mem_cons_self) ht
  | cons b s ih =>
    cases t with
    | nil =>
      rw [List.nil_append, List.cons_append, List.cons.injEq] at h
      exact absurd (h.1 ▸ List.mem_cons_self) hs
    | cons c t =>
      rw [List.cons_append, List.cons_append, List.cons.injEq] at h
      obtain ⟨hst, hpq⟩ := ih (fun hm => hs (List.mem_cons_of_mem b hm))
        (fun hm => ht (List.mem_cons_of_mem c hm)) h.2
      exact ⟨by rw [h.1, hst], hpq⟩

theorem eq_of_append_cons_eq_right {s t p q : List α} (hp : a ∉ p) (hq : a ∉ q)
    (h : s ++ a :: p = t ++ a :: q) : s = t ∧ p = q := by
  have hrev : p.reverse ++ a :: s.reverse = q.reverse ++ a :: t.reverse := by
    have := congrArg List.reverse h
    simpa using this
  obtain ⟨hpq, hst⟩ := eq_of_append_cons_eq_left (by simpa using hp) (by simpa using hq) hrev
  exact ⟨List.reverse_injective hst, List.reverse_injective hpq⟩

variable [BEq α] [LawfulBEq α]

theorem isPrefixOf_append_singleton_iff {k k' v : List α} (hk : a ∉ k) (hk' : a ∉ k')
    : (k ++ [a]).isPrefixOf (k' ++ a :: v) = true ↔ k = k' := by
  rw [List.isPrefixOf_iff_prefix]
  constructor
  . rintro ⟨w, hw⟩
    rw [List.append_assoc, List.singleton_append] at hw
    exact (eq_of_append_cons_eq_left hk hk' hw).1
  . rintro rfl
    exact ⟨v, by simp⟩

theorem isSuffixOf_cons_iff {s p q : List α} (hp : a ∉ p) (hq : a ∉ q)
    : (a :: q).isSuffixOf (s ++ a :: p) = true ↔ p = q := by
  rw [List.isSuffixOf_iff_suffix]
  constructor
  . rintro ⟨t, ht⟩
    exact ((eq_of_append_cons_eq_right hp hq ht.symm).2)
  . rintro rfl
    exact List.suffix_append s (a :: p)

theorem splitOn_flatMap_append_singleton (ls : List (List α)) (hls : ∀ l ∈ ls, a ∉ l)
    : (ls.flatMap (· ++ [a])).splitOn a = ls ++ [[]] := by
  have hjoin : ls.flatMap (· ++ [a]) = [a].intercalate (ls ++ [[]]) := by
    induction ls with
    | nil => rfl
    | cons l ls ih =>
      rw [List.flatMap_cons, ih (fun l' hl' => hls l' (List.mem_cons_of_mem l hl')),
        List.cons_append]
      cases ls with
      | nil => rw [List.nil_append, List.intercalate_cons_cons]
      | cons l' ls => rw [List.cons_append, List.intercalate_cons_cons]
  rw [hjoin]
  apply List.splitOn_intercalate a
  . intro l hl
    rcases List.mem_append.1 hl with hl | hl
    . exact hls l hl
    . rw [List.mem_singleton.1 hl]
      exact List.not_mem_nil
  . simp

end Affix

namespace Affix

variable {α : Type _} (p : α → Bool)

theorem dropWhile_rdropWhile_wrap {m : α} (hm : p m = true) (l : List α)
    (hhead : ∀ x ∈ l.head?, p x = false) (hlast : ∀ x ∈ l.getLast?, p x = false)
    : ((m :: l ++ [m]).rdropWhile p).dropWhile p = l := by
  rw [List.rdropWhile_concat_pos p _ _ hm]
  cases l using List.reverseRecOn with
  | nil => simp [List.rdropWhile, hm]
  | append_singleton l x =>
    have hx : p x = false := hlast x (by simp)
    rw [← List.cons_append, List.rdropWhile_concat_neg p _ _ (by simp [hx]),
      List.cons_append, List.dropWhile_cons_of_pos hm]
    -- the field is not empty, so its head is not a mark
    obtain ⟨y, l', hy⟩ : ∃ y l', l ++ [x] = y :: l' := List.exists_cons_of_ne_nil (by simp)
    rw [hy]
    exact List.dropWhile_cons_of_neg (by simp [hhead y (by simp [hy])])

end Affix
