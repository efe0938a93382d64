/-
Steps that change a table in part: the rows that meet a condition are the same rows,
in the same order, before and after.
-/

import FolioLattice.Relational.Rows
import Mathlib.Data.List.Forall2

namespace FolioLattice.Relational

variable {α β : Type}

def Unchanged (p : α → Bool) (old new : List α) : Prop := new.filter p = old.filter p

namespace Unchanged

variable {p q : α → Bool} {old mid new rows : List α}

theorem refl (p : α → Bool) (rows : List α) : Unchanged p rows rows := Eq.refl (rows.filter p)

theorem of_eq (same : new = old) : Unchanged p old new := by
  rw [same]
  exact refl p old

theorem trans (first : Unchanged p old mid) (second : Unchanged p mid new) :
    Unchanged p old new :=
  Eq.trans second first

/-- No row that meets the condition comes or goes. -/
theorem mem_iff (unchanged : Unchanged p old new) {row : α} (holds : p row = true) :
    row ∈ new ↔ row ∈ old := by
  have inFilter : ∀ rows : List α, row ∈ rows ↔ row ∈ rows.filter p := by
    intro rows
    rw [List.mem_filter]
    exact ⟨fun member => ⟨member, holds⟩, fun member => member.1⟩
  rw [inFilter new, inFilter old, unchanged]

theorem append (fresh : ∀ row ∈ new, p row = false) : Unchanged p old (old ++ new) := by
  have none : new.filter p = [] := by
    rw [List.filter_eq_nil_iff]
    intro row member
    rw [fresh row member]
    exact Bool.false_ne_true
  unfold Unchanged
  rw [List.filter_append, none, List.append_nil]

theorem concat {row : α} (fresh : p row = false) : Unchanged p old (old ++ [row]) := by
  apply append
  intro other member
  rw [List.mem_singleton.mp member]
  exact fresh

/-- Row by row: a row that meets the condition stays, and none comes to meet it. -/
theorem of_forall₂
    (rowwise : List.Forall₂ (fun row row' => row' = row ∨ (p row = false ∧ p row' = false)) old new) :
    Unchanged p old new := by
  induction rowwise with
  | nil => exact refl p []
  | @cons row row' _ _ here _ ih =>
      unfold Unchanged at ih ⊢
      rw [List.filter_cons, List.filter_cons, ih]
      rcases here with same | ⟨before, after⟩
      · rw [same]
      · rw [before, after, if_neg Bool.false_ne_true, if_neg Bool.false_ne_true]

/-- An update of rows that fail the condition, and still fail it. -/
theorem updateWhere {f : α → α}
    (outside : ∀ row ∈ rows, q row = true → p row = false ∧ p (f row) = false) :
    Unchanged p rows (updateWhere q f rows) := by
  apply of_forall₂
  apply List.forall₂_map_right_iff.mpr
  apply List.forall₂_same.mpr
  intro row member
  split
  · rename_i target
    exact Or.inr (outside row member target)
  · exact Or.inl rfl

/-- Rows made from the rows of another table. -/
theorem map {f : α → β} {r : β → Bool} (same : ∀ row, r (f row) = p row)
    (unchanged : Unchanged p old new) : Unchanged r (old.map f) (new.map f) := by
  have through : r ∘ f = p := funext same
  unfold Unchanged at unchanged ⊢
  rw [List.filter_map, List.filter_map, through, unchanged]

end Unchanged

end FolioLattice.Relational
