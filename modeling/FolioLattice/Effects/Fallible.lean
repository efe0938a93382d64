/-
Sequences of computations that may fail: what a result says about the steps before it.
-/

import Mathlib.Data.List.Forall2

namespace FolioLattice.Effects

variable {ε α β : Type}

/-- A sequence returns only if its first part does. -/
theorem except_bind_ok {first : Except ε α} {next : α → Except ε β} {result : β}
    (done : first >>= next = .ok result) : ∃ value, first = .ok value ∧ next value = .ok result := by
  cases first with
  | error e => cases done
  | ok value => exact ⟨value, rfl, done⟩

theorem except_map_ok {first : Except ε α} {f : α → β} {result : β}
    (done : first.map f = .ok result) : ∃ value, first = .ok value ∧ f value = result := by
  cases first with
  | error e => cases done
  | ok value => exact ⟨value, rfl, Except.ok.inj done⟩

theorem except_bind_pass {first : Except ε α} {a : α} {next : α → Except ε β} {result : β}
    (passes : first = .ok a) (later : next a = .ok result) :
    first >>= next = .ok result := by
  rw [passes]
  exact later

theorem except_bind_error {first : Except ε α} {next : α → Except ε β} {e : ε}
    (failed : first >>= next = .error e) :
    first = .error e ∨ ∃ value, first = .ok value ∧ next value = .error e := by
  cases first with
  | error other => exact Or.inl (congrArg Except.error (Except.error.inj failed))
  | ok value => exact Or.inr ⟨value, rfl, failed⟩

/-- An error of a sequence is one of its first part or of what follows. -/
theorem except_bind_ne {e : ε} {first : Except ε α} {next : α → Except ε β}
    (here : first ≠ .error e) (later : ∀ a, first = .ok a → next a ≠ .error e) :
    first >>= next ≠ .error e := by
  cases first with
  | error other =>
      intro same
      exact here (congrArg Except.error (Except.error.inj same))
  | ok value => exact later value rfl

/-- Results stand where the inputs they come from stood. -/
theorem except_mapM_ok {f : α → Except ε β} {inputs : List α} {results : List β}
    (mapped : inputs.mapM f = .ok results) :
    List.Forall₂ (fun a b => f a = .ok b) inputs results := by
  induction inputs generalizing results with
  | nil =>
      rw [List.mapM_nil] at mapped
      cases mapped
      exact .nil
  | cons input rest ih =>
      rw [List.mapM_cons] at mapped
      obtain ⟨result, here, mapped⟩ := except_bind_ok mapped
      obtain ⟨others, later, same⟩ := except_bind_ok mapped
      cases same
      exact .cons here (ih later)

/-- A sequence of steps that change nothing changes nothing. -/
theorem except_mapM_fixed {f : α → Except ε α} {inputs : List α}
    (fixed : ∀ a ∈ inputs, f a = .ok a) : inputs.mapM f = .ok inputs := by
  induction inputs with
  | nil => rfl
  | cons input rest ih =>
      rw [List.mapM_cons, fixed input List.mem_cons_self,
        ih (fun a member => fixed a (List.mem_cons_of_mem _ member))]
      rfl

/-- Where every input has a result whose key the input tells, all have. -/
theorem except_mapM_keys {γ : Type} {f : α → Except ε β} {inputs : List α} {key : β → γ}
    {told : α → γ} (each : ∀ a ∈ inputs, ∃ b, f a = .ok b ∧ key b = told a) :
    ∃ results, inputs.mapM f = .ok results ∧ results.map key = inputs.map told := by
  induction inputs with
  | nil => exact ⟨[], rfl, rfl⟩
  | cons input rest ih =>
      obtain ⟨result, here, same⟩ := each input List.mem_cons_self
      obtain ⟨results, later, keys⟩ := ih (fun a member => each a (List.mem_cons_of_mem _ member))
      refine ⟨result :: results, ?_, ?_⟩
      · rw [List.mapM_cons, here, later]
        rfl
      · rw [List.map_cons, List.map_cons, same, keys]

theorem forall₂_mem_left {R : α → β → Prop} {left : List α} {right : List β}
    (pairs : List.Forall₂ R left right) {a : α} (member : a ∈ left) : ∃ b ∈ right, R a b := by
  induction pairs with
  | nil => cases member
  | @cons a' b' _ _ related _ ih =>
      rcases List.mem_cons.mp member with same | later
      · rw [same]
        exact ⟨b', List.mem_cons_self, related⟩
      · obtain ⟨b, inside, found⟩ := ih later
        exact ⟨b, List.mem_cons_of_mem _ inside, found⟩

theorem forall₂_mem_right {R : α → β → Prop} {left : List α} {right : List β}
    (pairs : List.Forall₂ R left right) {b : β} (member : b ∈ right) : ∃ a ∈ left, R a b :=
  forall₂_mem_left pairs.flip member

end FolioLattice.Effects
