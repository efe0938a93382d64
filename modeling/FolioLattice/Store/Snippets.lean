/-
What a search snippet marks: the folded text says where, and the query how much.
-/

import FolioLattice.Store.Search
import FolioLattice.Text.Occurrence

namespace FolioLattice.Store

open FolioLattice.Text

/-! ### Slices -/

section Slices

variable {value : List Char} {start middle stop : Nat}

theorem slice_inside (value : List Char) (start stop : Nat) : slice value start stop <:+: value :=
  (List.drop_suffix _ _).isInfix.trans (List.take_prefix _ _).isInfix

theorem slice_append (first : start ≤ middle) (second : middle ≤ stop) :
    slice value start middle ++ slice value middle stop = slice value start stop := by
  have split : stop - start = (middle - start) + (stop - middle) := by omega
  have further : value.drop middle = (value.drop start).drop (middle - start) := by
    rw [List.drop_drop, Nat.add_sub_cancel' first]
  unfold slice
  rw [List.drop_take, List.drop_take, List.drop_take, further, split, List.take_add]

/-- Past the end there is nothing. -/
theorem slice_length_le (past : value.length ≤ stop) :
    slice value start stop = slice value start value.length := by
  unfold slice
  rw [List.take_of_length_le past, List.take_length]

/-- What stands between two parts of the text. -/
theorem slice_middle (before piece after : List Char) :
    slice (before ++ piece ++ after) before.length (before.length + piece.length) = piece := by
  unfold slice
  rw [← List.length_append, List.take_left, List.drop_left]

end Slices

/-! ### The parts of a snippet -/

structure Snippet where
  clippedBefore : Bool
  before : List Char
  marked : List Char
  behind : List Char
  clippedBehind : Bool

def ellipsis (clipped : Bool) : List Char := if clipped then ['…'] else []

def Snippet.text (snippet : Snippet) : List Char :=
  ellipsis snippet.clippedBefore ++ snippet.before ++ '[' :: snippet.marked ++ ']' ::
    snippet.behind ++ ellipsis snippet.clippedBehind

/-- The snippet without its brackets and ellipses. -/
def Snippet.excerpt (snippet : Snippet) : List Char :=
  snippet.before ++ snippet.marked ++ snippet.behind

def snippetAt (value : List Char) (offset length : Nat) : Snippet where
  clippedBefore := offset - snippetRadius ≠ 0
  before := slice value (offset - snippetRadius) offset
  marked := slice value offset (offset + length)
  behind := slice value (offset + length) (min value.length (offset + length + snippetRadius))
  clippedBehind := min value.length (offset + length + snippetRadius) < value.length

/-- The parts of the snippet, where there is a match. -/
def snippetOf (value query : List Char) : Option Snippet :=
  (snippetMatch value query).map (fun found => snippetAt value found.1 found.2)

theorem searchSnippet_eq (value query : List Char) :
    searchSnippet value query =
      ((snippetOf value query).map Snippet.text).getD (value.take (snippetRadius * 2)) := by
  unfold searchSnippet snippetOf
  cases snippetMatch value query with
  | none => rfl
  | some found =>
      simp [Snippet.text, snippetAt, ellipsis]

/-! ### What is marked -/

/-- Some piece of the value folds to the folded query. -/
def Occurs (value query : List Char) : Prop :=
  ∃ piece, piece <:+: value ∧ casefold piece = casefold query

/-- The marked text folds to the folded query, and stands in the excerpt as in the value. -/
structure Snippet.Marks (snippet : Snippet) (value query : List Char) : Prop where
  marked : snippet.marked <:+: value
  folds : casefold snippet.marked = casefold query
  excerpt : snippet.excerpt <:+: value

/-- A piece of the value that folds to the folded query stands as many characters into the value
as the folded query first stands into the folded value; it is as long as the query, or ends the
value before. -/
def Aligned (value query : List Char) : Prop :=
  ∃ before piece after, value = before ++ piece ++ after ∧ casefold piece = casefold query ∧
    FirstAt (casefold query) (casefold value) before.length ∧
    (piece.length = query.length ∨ piece.length < query.length ∧ after = [])

variable {value query : List Char}

theorem Occurs.find (occurs : Occurs value query) :
    ∃ offset, FirstAt (casefold query) (casefold value) offset ∧
      snippetOf value query = some (snippetAt value offset query.length) := by
  obtain ⟨piece, inside, folds⟩ := occurs
  have found : contains (casefold value) (casefold query) = true :=
    (contains_iff _ _).mpr (folds ▸ casefold_infix inside)
  obtain ⟨offset, result⟩ := Option.isSome_iff_exists.mp found
  refine ⟨offset, find_firstAt result, ?_⟩
  unfold snippetOf snippetMatch
  rw [result]
  rfl

/-- Wherever the match is taken to stand, the excerpt is a piece of the value. -/
theorem snippetAt_excerpt (value : List Char) (offset length : Nat) :
    (snippetAt value offset length).excerpt <:+: value := by
  change slice value (offset - snippetRadius) offset ++ slice value offset (offset + length) ++
    slice value (offset + length) (min value.length (offset + length + snippetRadius)) <:+: value
  rw [slice_append (Nat.sub_le _ _) (Nat.le_add_right _ _)]
  by_cases inside : offset + length ≤ value.length
  · rw [slice_append (by omega) (by omega)]
    exact slice_inside _ _ _
  · -- the text behind a match that reaches the end is empty
    have nothing : slice value (offset + length)
        (min value.length (offset + length + snippetRadius)) = [] := by
      unfold slice
      apply List.drop_eq_nil_of_le
      rw [List.length_take]
      omega
    rw [nothing, List.append_nil]
    exact slice_inside _ _ _

theorem snippetAt_marks (value query : List Char) (offset length : Nat) :
    (snippetAt value offset length).Marks value query ↔
      casefold (slice value offset (offset + length)) = casefold query := by
  constructor
  · exact Snippet.Marks.folds
  · intro folds
    exact ⟨slice_inside _ _ _, folds, snippetAt_excerpt value offset length⟩

theorem slice_before (value : List Char) (offset length : Nat) :
    value = value.take offset ++ slice value offset (offset + length) ++
      value.drop (offset + length) := by
  have start : value.take offset = slice value 0 offset := rfl
  rw [start, slice_append (Nat.zero_le _) (Nat.le_add_right _ _)]
  exact (List.take_append_drop (offset + length) value).symm

theorem slice_aligned {before piece after : List Char} {length : Nat}
    (size : piece.length = length ∨ piece.length < length ∧ after = []) :
    slice (before ++ piece ++ after) before.length (before.length + length) = piece := by
  rcases size with same | ⟨shorter, ends⟩
  · rw [← same]
    exact slice_middle before piece after
  · have whole : (before ++ piece ++ after).length = before.length + piece.length := by
      rw [ends, List.append_nil, List.length_append]
    rw [slice_length_le (by omega), whole]
    exact slice_middle before piece after

/-- Nothing folds to the query past the end of the value, where a first occurrence may lie. -/
theorem offset_le {offset : Nat} (first : FirstAt (casefold query) (casefold value) offset)
    (folds : casefold (slice value offset (offset + query.length)) = casefold query) :
    offset ≤ value.length := by
  by_contra past
  have nothing : slice value offset (offset + query.length) = [] := by
    unfold slice
    apply List.drop_eq_nil_of_le
    rw [List.length_take]
    omega
  rw [nothing] at folds
  have atStart : OccursAt (casefold query) (casefold value) 0 :=
    occursAt_zero.mpr (folds ▸ List.nil_prefix)
  have least := first.first 0 atStart
  omega

theorem aligned_iff {offset : Nat} (first : FirstAt (casefold query) (casefold value) offset) :
    Aligned value query ↔
      casefold (slice value offset (offset + query.length)) = casefold query := by
  constructor
  · intro aligned
    obtain ⟨before, piece, after, whole, folds, first', size⟩ := aligned
    rw [first.unique first', whole, slice_aligned size]
    exact folds
  · intro folds
    have inside := offset_le first folds
    have length : (value.take offset).length = offset := List.length_take_of_le inside
    refine ⟨value.take offset, slice value offset (offset + query.length),
      value.drop (offset + query.length), slice_before value offset _, folds, ?_, ?_⟩
    · rw [length]
      exact first
    · have size : (slice value offset (offset + query.length)).length =
          min (offset + query.length) value.length - offset := by
        unfold slice
        rw [List.length_drop, List.length_take]
      by_cases enough : offset + query.length ≤ value.length
      · left
        omega
      · right
        exact ⟨by omega, List.drop_eq_nil_of_le (by omega)⟩

/-! ### Characters that fold to one -/

/-- Every character of the text folds to one character. -/
def FoldsEach (text : List Char) : Prop := ∀ c ∈ text, ∃ d, casefoldChar c = [d]

theorem FoldsEach.casefold_eq {text : List Char} (each : FoldsEach text) :
    casefold text = text.map (fun c => (casefoldChar c).headD c) := by
  induction text with
  | nil => rfl
  | cons c rest ih =>
      obtain ⟨⟨d, isChar⟩, later⟩ := List.forall_mem_cons.mp each
      change casefoldChar c ++ casefold rest = _
      rw [ih later, List.map_cons, isChar]
      rfl

theorem FoldsEach.slice {text : List Char} (each : FoldsEach text) (start stop : Nat) :
    FoldsEach (slice text start stop) :=
  fun c member => each c ((slice_inside text start stop).subset member)

/-- Where no character folds to several or to none, the folded text says where the match is. -/
theorem aligned_of_foldsEach (occurs : Occurs value query) (ofValue : FoldsEach value)
    (ofQuery : FoldsEach query) : Aligned value query := by
  obtain ⟨offset, first, _⟩ := occurs.find
  have stands := first.occurs.piece.1
  have size : (casefold query).length = query.length := by
    rw [ofQuery.casefold_eq, List.length_map]
  rw [size, ofValue.casefold_eq, ← List.map_drop, ← List.map_take] at stands
  have piece : Store.slice value offset (offset + query.length) =
      (value.drop offset).take query.length := by
    unfold Store.slice
    rw [List.drop_take, Nat.add_sub_cancel_left]
  rw [aligned_iff first, (ofValue.slice _ _).casefold_eq, piece]
  exact stands

/-! ### Which snippets mark the match -/

/-- The snippet marks a piece of the value that folds to the folded query, within an excerpt. -/
def MarksMatch (value query : List Char) : Prop :=
  ∃ snippet, snippetOf value query = some snippet ∧ searchSnippet value query = snippet.text ∧
    snippet.Marks value query

/-- Where a piece of the value folds to the folded query, the snippet marks one exactly if one
stands where the folded text says, and is as long as the query. -/
theorem searchSnippet_marks_iff (occurs : Occurs value query) :
    MarksMatch value query ↔ Aligned value query := by
  obtain ⟨offset, first, isSnippet⟩ := occurs.find
  have isText : searchSnippet value query = (snippetAt value offset query.length).text := by
    rw [searchSnippet_eq, isSnippet]
    rfl
  rw [aligned_iff first, ← snippetAt_marks value query]
  constructor
  · intro marks
    obtain ⟨snippet, same, _, marks⟩ := marks
    rw [isSnippet] at same
    rw [Option.some.inj same]
    exact marks
  · intro marks
    exact ⟨_, isSnippet, isText, marks⟩

theorem searchSnippet_marks_shorter :
    MarksMatch "a Straße".toList "STRASSE".toList :=
  (searchSnippet_marks_iff ⟨"Straße".toList, ⟨"a ".toList, [], rfl⟩, by decide⟩).mpr
    ⟨"a ".toList, "Straße".toList, [], rfl, by decide,
      find_eq_some_iff.mp (by decide), Or.inr ⟨by decide, rfl⟩⟩

/-- A character that folds to two moves the mark behind the match. -/
theorem searchSnippet_marks_nothing :
    ¬∀ value query : List Char, query ≠ [] → Occurs value query → MarksMatch value query := by
  intro always
  have marks := always "ßa".toList "a".toList (by decide)
    ⟨"a".toList, ⟨"ß".toList, [], rfl⟩, rfl⟩
  obtain ⟨snippet, isSnippet, _, marks⟩ := marks
  have found : snippetOf "ßa".toList "a".toList = some (snippetAt "ßa".toList 2 1) := by
    unfold snippetOf
    have at' : snippetMatch "ßa".toList "a".toList = some (2, 1) := by decide
    rw [at']
    rfl
  rw [found] at isSnippet
  have folds := marks.folds
  rw [← Option.some.inj isSnippet] at folds
  revert folds
  decide

end FolioLattice.Store
