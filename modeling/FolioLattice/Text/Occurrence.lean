/-
Where a text stands in another one, and where it does so first.
-/

import FolioLattice.Text.Strings

namespace FolioLattice.Text

section Lists

variable {α : Type} {needle text : List α} {position position' : Nat}

/-- The needle stands in the text after so many characters. -/
def OccursAt (needle text : List α) (position : Nat) : Prop :=
  ∃ before after, text = before ++ needle ++ after ∧ before.length = position

structure FirstAt (needle text : List α) (position : Nat) : Prop where
  occurs : OccursAt needle text position
  first : ∀ other, OccursAt needle text other → position ≤ other

theorem FirstAt.unique (at' : FirstAt needle text position)
    (at'' : FirstAt needle text position') : position = position' :=
  Nat.le_antisymm (at'.first position' at''.occurs) (at''.first position at'.occurs)

theorem occursAt_zero : OccursAt needle text 0 ↔ needle <+: text := by
  constructor
  · intro occurs
    obtain ⟨before, after, whole, length⟩ := occurs
    rw [List.length_eq_zero_iff.mp length] at whole
    exact ⟨after, whole.symm⟩
  · intro inside
    obtain ⟨after, whole⟩ := inside
    exact ⟨[], after, whole.symm, rfl⟩

theorem occursAt_succ {c : α} :
    OccursAt needle (c :: text) (position + 1) ↔ OccursAt needle text position := by
  constructor
  · intro occurs
    obtain ⟨before, after, whole, length⟩ := occurs
    cases before with
    | nil => cases length
    | cons first before =>
        exact ⟨before, after, (List.cons.inj whole).2, Nat.succ.inj length⟩
  · intro occurs
    obtain ⟨before, after, whole, length⟩ := occurs
    exact ⟨c :: before, after, congrArg (c :: ·) whole, congrArg (· + 1) length⟩

theorem OccursAt.piece (occurs : OccursAt needle text position) :
    (text.drop position).take needle.length = needle ∧ position + needle.length ≤ text.length := by
  obtain ⟨before, after, whole, length⟩ := occurs
  constructor
  · rw [whole, ← length, List.append_assoc, List.drop_left, List.take_left]
  · rw [whole, ← length, List.length_append, List.length_append]
    exact Nat.le_add_right _ _

end Lists

/-! ### Searching -/

theorem findFrom_firstAt {needle value : List Char} {offset found : Nat}
    (result : findFrom needle offset value = some found) :
    offset ≤ found ∧ FirstAt needle value (found - offset) := by
  induction value generalizing offset with
  | nil =>
      unfold findFrom at result
      split at result
      · rename_i atEnd
        rw [← Option.some.inj result, Nat.sub_self]
        exact ⟨Nat.le_refl _, occursAt_zero.mpr (List.isPrefixOf_iff_prefix.mp atEnd),
          fun _ _ => Nat.zero_le _⟩
      · cases result
  | cons c rest ih =>
      unfold findFrom at result
      split at result
      · rename_i atHead
        rw [← Option.some.inj result, Nat.sub_self]
        exact ⟨Nat.le_refl _, occursAt_zero.mpr (List.isPrefixOf_iff_prefix.mp atHead),
          fun _ _ => Nat.zero_le _⟩
      · rename_i missing
        obtain ⟨later, inRest⟩ := ih result
        have moved : found - offset = (found - (offset + 1)) + 1 := by omega
        rw [moved]
        refine ⟨by omega, occursAt_succ.mpr inRest.occurs, ?_⟩
        intro other occurs
        cases other with
        | zero => exact absurd (List.isPrefixOf_iff_prefix.mpr (occursAt_zero.mp occurs)) missing
        | succ other => exact Nat.succ_le_succ (inRest.first other (occursAt_succ.mp occurs))

theorem find_firstAt {needle value : List Char} {found : Nat}
    (result : find value needle = some found) : FirstAt needle value found :=
  (findFrom_firstAt result).2

/-- A search finds the first place there is. -/
theorem find_eq_some_iff {needle value : List Char} {found : Nat} :
    find value needle = some found ↔ FirstAt needle value found := by
  constructor
  · exact find_firstAt
  · intro first
    obtain ⟨before, after, whole, _⟩ := first.occurs
    have inside : contains value needle = true :=
      (contains_iff value needle).mpr ⟨before, after, whole.symm⟩
    obtain ⟨found', result⟩ := Option.isSome_iff_exists.mp inside
    rw [result, (find_firstAt result).unique first]

end FolioLattice.Text
