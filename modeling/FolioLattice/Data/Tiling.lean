/-
Spans that lie end to end, and the pieces of a list that they name: the pieces of
a tiling, put together, are what the tiling covers.
-/

import Mathlib.Data.List.Basic

namespace FolioLattice.Data

structure Span where
  start : Nat
  finish : Nat
  deriving DecidableEq

section Slices

variable {α : Type}

def Span.slice (span : Span) (items : List α) : List α :=
  (items.drop span.start).take (span.finish - span.start)

/-- Two spans that meet name what the span over both names. -/
theorem Span.slice_append {a b c : Nat} (items : List α) (first : a ≤ b) (second : b ≤ c) :
    (Span.mk a b).slice items ++ (Span.mk b c).slice items = (Span.mk a c).slice items := by
  unfold Span.slice
  have rest : items.drop b = (items.drop a).drop (b - a) := by
    rw [List.drop_drop]
    congr 1
    omega
  have length : c - a = (b - a) + (c - b) := by omega
  dsimp only
  rw [rest, length, List.take_add]

theorem Span.slice_whole (items : List α) : (Span.mk 0 items.length).slice items = items := by
  unfold Span.slice
  rw [List.drop_zero, Nat.sub_zero, List.take_length]

/-! ### Tilings -/

/-- The spans lie end to end from the one bound to the other, and none is empty. -/
def Tiles : Nat → List Span → Nat → Prop
  | low, [], high => low = high
  | low, span :: rest, high => span.start = low ∧ low < span.finish ∧ Tiles span.finish rest high

theorem Tiles.le {low high : Nat} {spans : List Span} (tiles : Tiles low spans high) :
    low ≤ high := by
  induction spans generalizing low with
  | nil => exact Nat.le_of_eq tiles
  | cons span rest ih =>
      obtain ⟨_, less, after⟩ := tiles
      exact Nat.le_trans (Nat.le_of_lt less) (ih after)

theorem Tiles.append {low middle high : Nat} {front rest : List Span}
    (first : Tiles low front middle) (second : Tiles middle rest high) :
    Tiles low (front ++ rest) high := by
  induction front generalizing low with
  | nil =>
      have same : low = middle := first
      rw [same]
      exact second
  | cons span front ih =>
      obtain ⟨starts, less, after⟩ := first
      exact ⟨starts, less, ih after⟩

/-- The pieces that a tiling names, in their order, are what it covers. -/
theorem Tiles.slices {low high : Nat} {spans : List Span} (tiles : Tiles low spans high)
    (items : List α) : (spans.map (fun span => span.slice items)).flatten =
      (Span.mk low high).slice items := by
  induction spans generalizing low with
  | nil =>
      have same : low = high := tiles
      unfold Span.slice
      dsimp only
      rw [same, Nat.sub_self, List.take_zero, List.map_nil, List.flatten_nil]
  | cons span rest ih =>
      obtain ⟨starts, less, after⟩ := tiles
      rw [List.map_cons, List.flatten_cons, ih after, ← starts]
      apply Span.slice_append items _ after.le
      rw [starts]
      exact Nat.le_of_lt less

end Slices

/-! ### Cuts of one size -/

/-- The span that starts at `index * size`, cut off at the length. -/
def cutAt (size length index : Nat) : Span :=
  ⟨index * size, min (index * size + size) length⟩

/-- The first cuts tile the front of the list, as long as each of them starts inside. -/
theorem cuts_tile_front {size length : Nat} (positive : 0 < size) (count : Nat)
    (inside : ∀ index < count, index * size < length) :
    Tiles 0 ((List.range count).map (cutAt size length)) (min (count * size) length) := by
  induction count with
  | zero =>
      change 0 = min (0 * size) length
      rw [Nat.zero_mul, Nat.zero_min]
  | succ count ih =>
      have earlier := ih (fun index less => inside index (Nat.lt_succ_of_lt less))
      have starts := inside count (Nat.lt_succ_self count)
      rw [Nat.min_eq_left (Nat.le_of_lt starts)] at earlier
      rw [List.range_succ, List.map_append]
      apply earlier.append
      refine ⟨rfl, ?_, ?_⟩
      · exact Nat.lt_min.mpr ⟨Nat.lt_add_of_pos_right positive, starts⟩
      · change min (count * size + size) length = min ((count + 1) * size) length
        rw [Nat.succ_mul]

/-- One cut for each start in `range(0, length, size)` tiles the whole length. -/
theorem cuts_tile {size : Nat} (positive : 0 < size) (length : Nat) :
    Tiles 0 ((List.range ((length + (size - 1)) / size)).map (cutAt size length)) length := by
  have bounds : (length + (size - 1)) / size * size ≤ length + (size - 1) :=
    Nat.div_mul_le_self _ _
  have inside : ∀ index < (length + (size - 1)) / size, index * size < length := by
    intro index less
    have next : (index + 1) * size ≤ (length + (size - 1)) / size * size :=
      Nat.mul_le_mul_right size less
    rw [Nat.succ_mul] at next
    omega
  have tiles := cuts_tile_front positive ((length + (size - 1)) / size) inside
  have covers : length ≤ (length + (size - 1)) / size * size := by
    have remainder := Nat.div_add_mod (length + (size - 1)) size
    have small := Nat.mod_lt (length + (size - 1)) positive
    rw [Nat.mul_comm] at remainder
    omega
  rw [Nat.min_eq_right covers] at tiles
  exact tiles

end FolioLattice.Data
