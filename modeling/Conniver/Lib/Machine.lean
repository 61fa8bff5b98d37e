import Mathlib.Data.List.Basic

/-!
A Mealy machine is a step function that takes a state and an input to a new state and the
list of outputs the step emits. This module defines the runs of such a machine over a list of
inputs and the rules that carry an invariant or a relation along a run, bound its outputs, or
read a run through a projection of its state.
-/

namespace Mealy

variable {σ ι ω τ ε : Type}

/--
Run the inputs in order from `s`, collecting the outputs of every step.
-/
def run (step : σ → ι → σ × List ω) (s : σ) : List ι → σ × List ω
  | [] => (s, [])
  | i :: is =>
    let r := step s i
    let rest := run step r.1 is
    (rest.1, r.2 ++ rest.2)

variable {step : σ → ι → σ × List ω}

@[simp]
theorem run_nil (s : σ) : run step s [] = (s, []) := rfl

@[simp]
theorem run_cons (s : σ) (i : ι) (is : List ι) :
    run step s (i :: is) =
      ((run step (step s i).1 is).1, (step s i).2 ++ (run step (step s i).1 is).2) := rfl

theorem mem_run_outputs {s : σ} {o : ω} {is : List ι} (h : o ∈ (run step s is).2)
    : ∃ pre i post, is = pre ++ i :: post ∧ o ∈ (step (run step s pre).1 i).2 := by
  induction is generalizing s with
  | nil => simp at h
  | cons i is ih =>
    rw [run_cons, List.mem_append] at h
    cases h with
    | inl hhere => exact ⟨[], i, is, rfl, by simpa using hhere⟩
    | inr hlater =>
      obtain ⟨pre, j, post, rfl, hj⟩ := ih hlater
      exact ⟨i :: pre, j, post, rfl, by simpa using hj⟩

theorem length_run_outputs_le_countP (p : ι → Bool)
    (h : ∀ s i, (step s i).2.length ≤ if p i then 1 else 0) (s : σ) (is : List ι)
    : (run step s is).2.length ≤ is.countP p := by
  induction is generalizing s with
  | nil => simp
  | cons i is ih =>
    rw [run_cons, List.length_append, List.countP_cons]
    have hhere := h s i
    have hlater := ih (step s i).1
    cases hp : p i <;> simp only [hp] at hhere ⊢ <;> omega

theorem run_rel (R : σ → σ → Prop) (hrefl : ∀ s, R s s) (htrans : ∀ s t u, R s t → R t u → R s u)
    (hstep : ∀ s i, R s (step s i).1) (s : σ) (is : List ι) : R s (run step s is).1 := by
  induction is generalizing s with
  | nil => exact hrefl s
  | cons i is ih =>
    rw [run_cons]
    exact htrans _ _ _ (hstep s i) (ih (step s i).1)

theorem run_guarded_invariant (good : ι → Prop) (P : σ → Prop) (Q : ω → Prop)
    (hstep : ∀ s i, good i → P s → P (step s i).1 ∧ ∀ o ∈ (step s i).2, Q o)
    (s : σ) (is : List ι) (hgood : ∀ i ∈ is, good i) (hs : P s)
    : P (run step s is).1 ∧ ∀ o ∈ (run step s is).2, Q o := by
  induction is generalizing s with
  | nil => exact ⟨hs, by simp⟩
  | cons i is ih =>
    obtain ⟨hnext, hout⟩ := hstep s i (hgood i List.mem_cons_self) hs
    obtain ⟨hend, hlater⟩ := ih (step s i).1 (fun j hj => hgood j (List.mem_cons_of_mem i hj)) hnext
    refine ⟨hend, fun o ho => ?_⟩
    rw [run_cons, List.mem_append] at ho
    rcases ho with ho | ho
    . exact hout o ho
    . exact hlater o ho

theorem run_view (view : σ → τ) (sel : ι → Option ε) (f : τ → ε → τ)
    (hsome : ∀ s i e, sel i = some e → view (step s i).1 = f (view s) e)
    (hnone : ∀ s i, sel i = none → view (step s i).1 = view s) :
    ∀ (s : σ) (is : List ι), view (run step s is).1 = (is.filterMap sel).foldl f (view s) := by
  intro s is
  induction is generalizing s with
  | nil => simp
  | cons i is ih =>
    rw [run_cons, ih]
    cases hsel : sel i with
    | none => simp [hsel, hnone s i hsel]
    | some e => simp [hsel, hsome s i e hsel]

end Mealy
