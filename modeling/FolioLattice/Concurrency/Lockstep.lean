/-
Two machines that take the same inputs: a relation of their states that no input ends, and
under which they answer the same.
-/

import Mathlib.Data.List.Basic

namespace FolioLattice.Concurrency

variable {ι ρ σ σ' : Type}

/-- What a machine answers to inputs that come one after another. -/
def outputs (step : σ → ι → σ × ρ) (s : σ) : List ι → List ρ
  | [] => []
  | input :: rest => (step s input).2 :: outputs step (step s input).1 rest

/-- The state that some inputs leave. -/
def stateAfter (step : σ → ι → σ × ρ) (s : σ) : List ι → σ
  | [] => s
  | input :: rest => stateAfter step (step s input).1 rest

/-- Related states answer an admissible input alike, and what it leaves is related. -/
structure Lockstep (step : σ → ι → σ × ρ) (step' : σ' → ι → σ' × ρ) (admissible : ι → Prop)
    (related : σ → σ' → Prop) : Prop where
  answer : ∀ s s' input, related s s' → admissible input →
    (step s input).2 = (step' s' input).2
  next : ∀ s s' input, related s s' → admissible input →
    related (step s input).1 (step' s' input).1

section Runs

variable {step : σ → ι → σ × ρ} {step' : σ' → ι → σ' × ρ} {admissible : ι → Prop}
  {related : σ → σ' → Prop} {s : σ} {s' : σ'} {inputs : List ι}

theorem Lockstep.outputs_eq (lockstep : Lockstep step step' admissible related)
    (initial : related s s') (all : ∀ input ∈ inputs, admissible input) :
    outputs step s inputs = outputs step' s' inputs := by
  induction inputs generalizing s s' with
  | nil => rfl
  | cons input rest ih =>
      obtain ⟨here, later⟩ := List.forall_mem_cons.mp all
      change (step s input).2 :: outputs step (step s input).1 rest =
        (step' s' input).2 :: outputs step' (step' s' input).1 rest
      rw [lockstep.answer s s' input initial here, ih (lockstep.next s s' input initial here) later]

theorem Lockstep.related_after (lockstep : Lockstep step step' admissible related)
    (initial : related s s') (all : ∀ input ∈ inputs, admissible input) :
    related (stateAfter step s inputs) (stateAfter step' s' inputs) := by
  induction inputs generalizing s s' with
  | nil => exact initial
  | cons input rest ih =>
      obtain ⟨here, later⟩ := List.forall_mem_cons.mp all
      exact ih (lockstep.next s s' input initial here) later

end Runs

end FolioLattice.Concurrency
