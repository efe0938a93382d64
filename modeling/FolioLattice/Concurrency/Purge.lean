/-
Machines that answer one input after another, and what is left of a run when the
inputs of others are deleted from it.
-/

import Mathlib.Data.List.Basic

namespace FolioLattice.Concurrency

variable {σ α β : Type} {step : σ → α → σ × β}

/-- The inputs with their answers. -/
def answers (step : σ → α → σ × β) : σ → List α → List (α × β)
  | _, [] => []
  | s, a :: rest => (a, (step s a).2) :: answers step (step s a).1 rest

/-- Every input finds the machine in a state that meets the condition. -/
def Along (step : σ → α → σ × β) (P : σ → α → Prop) : σ → List α → Prop
  | _, [] => True
  | s, a :: rest => P s a ∧ Along step P (step s a).1 rest

/-- The state relation `R` is about the run with everyone's inputs, the run with only
`mine`, and the inputs still to come. -/
theorem answers_purge {P : σ → α → Prop} (mine : α → Bool) {R : List α → σ → σ → Prop}
    (others : ∀ a rest s t, R (a :: rest) s t → P s a → mine a = false → R rest (step s a).1 t)
    (own : ∀ a rest s t, R (a :: rest) s t → P s a → mine a = true →
      R rest (step s a).1 (step t a).1 ∧ (step s a).2 = (step t a).2)
    (inputs : List α) (s t : σ) (related : R inputs s t) (along : Along step P s inputs) :
    (answers step s inputs).filter (fun answer => mine answer.1) =
      answers step t (inputs.filter mine) := by
  induction inputs generalizing s t with
  | nil => rfl
  | cons a rest ih =>
      obtain ⟨here, later⟩ := along
      rw [answers]
      by_cases isMine : mine a = true
      · obtain ⟨next, same⟩ := own a rest s t related here isMine
        rw [List.filter_cons_of_pos isMine, answers, ← same, ← ih _ _ next later]
        exact List.filter_cons_of_pos isMine
      · have next := others a rest s t related here ((Bool.not_eq_true _).mp isMine)
        rw [List.filter_cons_of_neg isMine, ← ih _ _ next later]
        exact List.filter_cons_of_neg isMine

end FolioLattice.Concurrency
