/-
A browser that follows the reference in a page asks the renderer for exactly the version
that the page names.
-/

import FolioLattice.Renderer.App
import FolioLattice.Server.Forms

namespace FolioLattice.Renderer

open FolioLattice.Text FolioLattice.Data FolioLattice.Server
open FolioLattice.External (unquoteToBytes)

/-! ### The attribute -/

/-- A segment that a path keeps: not empty, in one piece, and no dots. -/
structure Segment (id : List Char) : Prop where
  filled : id ≠ []
  whole : '/' ∉ id
  notDot : id ≠ ['.']
  notDots : id ≠ ['.', '.']

theorem encodeUtf8_append (left right : List Char) :
    encodeUtf8 (left ++ right) = encodeUtf8 left ++ encodeUtf8 right :=
  List.flatMap_append

/-- Quoting leaves dots as they are and writes nothing else in a way that means dots. -/
theorem Segment.kept {id : List Char} (segment : Segment id) :
    (isDoubleDot (quote id) || isSingleDot (quote id)) = false := by
  have back : decodeUtf8 (unquoteToBytes (quote id)) = id := by
    rw [unquoteToBytes_quote, decodeUtf8_encodeUtf8]
  have notDots : isDoubleDot (quote id) = false := by
    apply decide_eq_false
    intro same
    rw [same] at back
    exact segment.notDots (back.symm.trans (by decide))
  have notDot : isSingleDot (quote id) = false := by
    apply decide_eq_false
    intro same
    rw [same] at back
    exact segment.notDot (back.symm.trans (by decide))
  rw [notDots, notDot]
  rfl

end FolioLattice.Renderer
