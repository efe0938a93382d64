/-
The string operations of Python and SQLite that text matching rests on:
`str.strip`, `str.find`, `str.casefold`, SQLite `lower` and the collapse of
punctuation runs.  Text is a list of characters here, so positions are code
point offsets.
-/

import FolioLattice.Text.Unicode
import Mathlib.Data.List.DropRight
import Mathlib.Data.List.Infix

namespace FolioLattice.Text

/-! ### Stripping -/

def strip (text : List Char) : List Char :=
  (text.dropWhile isSpace).rdropWhile isSpace

theorem strip_eq_nil_iff (text : List Char) :
    strip text = [] ↔ ∀ c ∈ text, isSpace c = true := by
  constructor
  · intro empty
    have spaces := List.rdropWhile_eq_nil_iff.mp empty
    apply List.dropWhile_eq_nil_iff.mp
    cases trimmed : text.dropWhile isSpace with
    | nil => rfl
    | cons head tail =>
        -- the first pass keeps no leading space, the second found only spaces
        have headSpace : isSpace head = true := by
          apply spaces
          rw [trimmed]
          exact List.mem_cons_self
        have headKept := List.head?_dropWhile_not isSpace text
        rw [trimmed] at headKept
        simp [headSpace] at headKept
  · intro spaces
    apply List.rdropWhile_eq_nil_iff.mpr
    intro c member
    exact spaces c ((List.dropWhile_sublist isSpace).subset member)

/-! ### Substring search -/

/-- `value.find(needle)`, counted from `offset`. -/
def findFrom (needle : List Char) : Nat → List Char → Option Nat
  | offset, [] => if needle.isPrefixOf [] then some offset else none
  | offset, c :: rest =>
      if needle.isPrefixOf (c :: rest) then some offset
      else findFrom needle (offset + 1) rest

def find (value needle : List Char) : Option Nat := findFrom needle 0 value

def contains (value needle : List Char) : Bool := (find value needle).isSome

theorem findFrom_isSome_iff (needle : List Char) (offset : Nat) (value : List Char) :
    (findFrom needle offset value).isSome = true ↔ needle <:+: value := by
  induction value generalizing offset with
  | nil =>
      unfold findFrom
      split
      · rename_i found
        simp [List.isPrefixOf_iff_prefix.mp found |>.isInfix]
      · rename_i missing
        constructor
        · intro impossible
          cases impossible
        · intro inside
          have empty : needle = [] := List.eq_nil_of_infix_nil inside
          subst empty
          exact absurd rfl missing
  | cons c rest ih =>
      unfold findFrom
      split
      · rename_i found
        simp [List.isPrefixOf_iff_prefix.mp found |>.isInfix]
      · rename_i missing
        rw [ih, List.infix_cons_iff]
        constructor
        · exact Or.inr
        · intro inside
          rcases inside with atHead | later
          · exact absurd (List.isPrefixOf_iff_prefix.mpr atHead) missing
          · exact later

theorem contains_iff (value needle : List Char) :
    contains value needle = true ↔ needle <:+: value :=
  findFrom_isSome_iff needle 0 value

theorem findFrom_some {needle value : List Char} {offset found : Nat}
    (result : findFrom needle offset value = some found) :
    offset ≤ found ∧ needle <+: value.drop (found - offset) := by
  induction value generalizing offset with
  | nil =>
      unfold findFrom at result
      split at result
      · rename_i atEnd
        cases result
        rw [Nat.sub_self]
        exact ⟨Nat.le_refl _, List.isPrefixOf_iff_prefix.mp atEnd⟩
      · cases result
  | cons c rest ih =>
      unfold findFrom at result
      split at result
      · rename_i atHead
        cases result
        rw [Nat.sub_self]
        exact ⟨Nat.le_refl _, List.isPrefixOf_iff_prefix.mp atHead⟩
      · obtain ⟨later, inside⟩ := ih result
        have position : found - offset = (found - (offset + 1)) + 1 := by omega
        rw [position, List.drop_succ_cons]
        exact ⟨by omega, inside⟩

/-- What a search finds is a place of the needle. -/
theorem find_some {value needle : List Char} {found : Nat} (result : find value needle = some found) :
    needle <+: value.drop found :=
  (findFrom_some result).2

theorem contains_self (value : List Char) : contains value value = true :=
  (contains_iff value value).mpr (List.infix_refl value)

/-! ### Case -/

def casefold (text : List Char) : List Char := text.flatMap casefoldChar

/-- SQLite's built-in `lower()`. -/
def lower (text : List Char) : List Char := text.map lowerChar

theorem casefold_append (left right : List Char) :
    casefold (left ++ right) = casefold left ++ casefold right :=
  List.flatMap_append

theorem casefold_lower (text : List Char) : casefold (lower text) = casefold text := by
  induction text with
  | nil => rfl
  | cons c rest ih =>
      unfold casefold lower at ih ⊢
      rw [List.map_cons, List.flatMap_cons, List.flatMap_cons, ih, casefoldChar_lowerChar]

theorem casefold_infix {needle value : List Char} (inside : needle <:+: value) :
    casefold needle <:+: casefold value := by
  obtain ⟨before, after, joined⟩ := inside
  refine ⟨casefold before, casefold after, ?_⟩
  rw [← joined, casefold_append, casefold_append]

/-- A match up to ASCII case is a match up to case folding. -/
theorem contains_casefold_of_lower {value needle : List Char}
    (found : contains (lower value) (lower needle) = true) :
    contains (casefold value) (casefold needle) = true := by
  rw [contains_iff] at found ⊢
  have folded := casefold_infix found
  rw [casefold_lower, casefold_lower] at folded
  exact folded

/-! ### Words -/

/-- `re.sub(r"[\W_]+", " ", text)`: every run of characters that are neither
letters nor digits becomes one space.  The flag says that the run's space is
already out. -/
def collapseFrom : Bool → List Char → List Char
  | _, [] => []
  | inRun, c :: rest =>
      if isAlnum c then c :: collapseFrom false rest
      else if inRun then collapseFrom true rest
      else ' ' :: collapseFrom true rest

def normalizeWords (text : List Char) : List Char := strip (collapseFrom false text)

/-- `text.split(" ", 1)[0]`. -/
def firstWord (text : List Char) : List Char := text.takeWhile (fun c => c != ' ')

end FolioLattice.Text
