import Mathlib

/-!
What a comparison sort promises: its result is a permutation of the data in which no element
is less than one before it. When the comparison agrees on distinct elements of the data with
the order of an injective key, and the data has no duplicates, the result lists the data by
strictly increasing key, so every result of the sort is the same list.
-/

namespace Sorting

variable {α β : Type _}

/--
A result of sorting `data` with the comparison `less`: a permutation of `data` in which no
element is `less` than an element before it.
-/
structure SortResult (less : α → α → Bool) (data out : List α) : Prop where
  perm : out.Perm data
  sorted : out.Pairwise (fun a b => less b a = false)

variable [LinearOrder β] {key : α → β} {less : α → α → Bool} {data out : List α}

theorem pairwise_key_lt (hkey : Function.Injective key)
    (hless : ∀ a ∈ data, ∀ b ∈ data, a ≠ b → (less a b = true ↔ key a < key b))
    (hnodup : data.Nodup) (h : SortResult less data out)
    : out.Pairwise (fun a b => key a < key b) := by
  have hout : out.Nodup := h.perm.nodup_iff.2 hnodup
  refine (h.sorted.and hout).imp_of_mem ?_
  intro a b ha hb ⟨hba, hne⟩
  have hba' : ¬ key b < key a := by
    rw [← hless b (h.perm.subset hb) a (h.perm.subset ha) (Ne.symm hne), hba]
    exact Bool.false_ne_true
  -- distinct elements have distinct keys, so the order between them is strict
  exact lt_of_le_of_ne (not_lt.1 hba') (fun heq => hne (hkey heq))

theorem eq_of_sortResult {out' : List α} (hkey : Function.Injective key)
    (hless : ∀ a ∈ data, ∀ b ∈ data, a ≠ b → (less a b = true ↔ key a < key b))
    (hnodup : data.Nodup) (h : SortResult less data out) (h' : SortResult less data out')
    : out' = out :=
  List.Perm.eq_of_pairwise (fun _ _ _ _ hab hba => absurd (lt_trans hab hba) (lt_irrefl _))
    (pairwise_key_lt hkey hless hnodup h') (pairwise_key_lt hkey hless hnodup h)
    (h'.perm.trans h.perm.symm)

end Sorting
