/-
Forms: what `urlencode` writes is what `parse_qsl` reads, whatever the names and values.
-/

import FolioLattice.Server.Query

namespace FolioLattice.Server

open FolioLattice.Text FolioLattice.Data
open FolioLattice.External (unquoteToBytes)

/-! ### UTF-8 is read back -/

/-- A byte that continues a character gives its six bits. -/
theorem decodeTail_byte {left low high bits n : Nat} (rest : Bytes) (small : n < 64)
    (above : low ≤ n + 0x80) (below : n + 0x80 ≤ high) :
    decodeTail (left + 1) low high bits (UInt8.ofNat (n + 0x80) :: rest) =
      decodeTail left 0x80 0xbf (bits * 64 + n) rest := by
  have value : (UInt8.ofNat (n + 0x80)).toNat = n + 0x80 := by
    rw [UInt8.toNat_ofNat']
    omega
  rw [decodeTail, value, if_pos ⟨above, below⟩, Nat.add_sub_cancel]

theorem leadInfo_two {n : Nat} (long : 2 ≤ n) (small : n < 32) :
    leadInfo (n + 0xc0) = some (1, 0x80, 0xbf, n) := by
  unfold leadInfo
  rw [if_neg (by omega), if_pos (by omega), Nat.add_sub_cancel]

/-- The range of the second byte leaves out what is too long and the surrogates. -/
theorem leadInfo_three : ∀ n < 16, leadInfo (n + 0xe0) =
    some (2, if n = 0 then 0xa0 else 0x80, if n = 0xd then 0x9f else 0xbf, n) := by
  decide

theorem leadInfo_four : ∀ n < 5, leadInfo (n + 0xf0) =
    some (3, if n = 0 then 0x90 else 0x80, if n = 4 then 0x8f else 0xbf, n) := by
  decide

theorem decodeOne_lead {n left low high bits : Nat} (rest : Bytes) (above : 0x80 ≤ n)
    (below : n < 256) (info : leadInfo n = some (left, low, high, bits)) :
    decodeOne (UInt8.ofNat n) rest = decodeTail left low high bits rest := by
  have value : (UInt8.ofNat n).toNat = n := by
    rw [UInt8.toNat_ofNat']
    omega
  unfold decodeOne
  rw [value, if_neg (Nat.not_lt_of_le above), info]

/-- The first byte of a character and the others, as they are decoded. -/
theorem decodeOne_encoded (c : Char) (rest : Bytes) : ∃ lead tail,
    String.utf8EncodeChar c = lead :: tail ∧ decodeOne lead (tail ++ rest) = (c, rest) := by
  have whole : Char.ofNat c.val.toNat = c := Char.ofNat_toNat c
  have valid : c.val.toNat < 0xd800 ∨ 0xdfff < c.val.toNat ∧ c.val.toNat < 0x110000 := c.valid
  unfold String.utf8EncodeChar
  generalize c.val.toNat = v at whole valid
  dsimp only
  split_ifs with one two three
  · refine ⟨_, _, rfl, ?_⟩
    have lead : (UInt8.ofNat v).toNat = v := toNat_ofNat_ascii (Nat.lt_succ_of_le one)
    unfold decodeOne
    rw [lead, if_pos (Nat.lt_succ_of_le one), whole, List.nil_append]
  · refine ⟨_, _, rfl, ?_⟩
    have sum : v / 64 % 32 * 64 + v % 64 = v := by omega
    rw [decodeOne_lead _ (by omega) (by omega) (leadInfo_two (by omega) (by omega)),
      List.cons_append, decodeTail_byte _ (by omega) (by omega) (by omega), decodeTail,
      sum, whole, List.nil_append]
  · refine ⟨_, _, rfl, ?_⟩
    have sum : (v / 4096 % 16 * 64 + v / 64 % 64) * 64 + v % 64 = v := by omega
    rw [decodeOne_lead _ (by omega) (by omega) (leadInfo_three _ (by omega)),
      List.cons_append, decodeTail_byte _ (by omega) (by split_ifs <;> omega)
        (by split_ifs <;> omega), List.cons_append,
      decodeTail_byte _ (by omega) (by omega) (by omega), decodeTail,
      sum, whole, List.nil_append]
  · refine ⟨_, _, rfl, ?_⟩
    have sum : ((v / 262144 % 8 * 64 + v / 4096 % 64) * 64 + v / 64 % 64) * 64 + v % 64 = v := by
      omega
    rw [decodeOne_lead _ (by omega) (by omega) (leadInfo_four _ (by omega)),
      List.cons_append, decodeTail_byte _ (by omega) (by split_ifs <;> omega)
        (by split_ifs <;> omega), List.cons_append,
      decodeTail_byte _ (by omega) (by omega) (by omega), List.cons_append,
      decodeTail_byte _ (by omega) (by omega) (by omega), decodeTail,
      sum, whole, List.nil_append]

/-- Encoded text is decoded without a replacement. -/
theorem decodeUtf8_encodeUtf8 (text : List Char) : decodeUtf8 (encodeUtf8 text) = text := by
  unfold decodeUtf8
  induction text with
  | nil => rfl
  | cons c text ih =>
      obtain ⟨lead, tail, bytes, decoded⟩ := decodeOne_encoded c (encodeUtf8 text)
      have written : encodeUtf8 (c :: text) = lead :: (tail ++ encodeUtf8 text) := by
        unfold encodeUtf8
        rw [List.flatMap_cons, bytes, List.cons_append]
      rw [written, List.length_cons, decodeFrom, decoded]
      dsimp only
      rw [decodeFrom_of_enough (by rw [List.length_append]; omega), ih]

/-! ### Writing -/

/-- A byte as `quote_plus` writes it. -/
def quotePlusByte (b : UInt8) : Bytes := if b = 0x20 then [0x2b] else quoteByte b

/-- `urllib.parse.quote_plus` -/
def quotePlus (text : List Char) : Bytes := (encodeUtf8 text).flatMap quotePlusByte

def formField (field : List Char × List Char) : Bytes := quotePlus field.1 ++ 0x3d :: quotePlus field.2

/-- `urllib.parse.urlencode` of a mapping's items. -/
def urlencode (fields : List (List Char × List Char)) : Bytes :=
  [0x26].intercalate (fields.map formField)

/-! ### Reading back -/

theorem plusToSpace_append (left right : Bytes) :
    plusToSpace (left ++ right) = plusToSpace left ++ plusToSpace right := List.map_append

theorem unquote_quotePlusByte (b : UInt8) (rest : Bytes) :
    unquoteToBytes (plusToSpace (quotePlusByte b ++ rest)) =
      b :: unquoteToBytes (plusToSpace rest) := by
  unfold quotePlusByte
  by_cases space : b = 0x20
  · rw [if_pos space, space]
    exact unquoteToBytes_cons (by decide) _
  · rw [if_neg space, plusToSpace_append,
      plusToSpace_quoted (List.all_eq_true.mp (quoteByte_quoted b)), unquoteToBytes_quoteByte]

/-- A name or a value comes back. -/
theorem unquote_quotePlus (text : List Char) : unquoteAscii (plusToSpace (quotePlus text)) = text := by
  have bytes : unquoteToBytes (plusToSpace (quotePlus text)) = encodeUtf8 text := by
    unfold quotePlus
    induction encodeUtf8 text with
    | nil => rfl
    | cons b bytes ih => rw [List.flatMap_cons, unquote_quotePlusByte, ih]
  unfold unquoteAscii
  rw [bytes, decodeUtf8_encodeUtf8]

/-- Neither of the marks that a form is cut at is in a name or a value. -/
theorem quotePlus_unmarked {text : List Char} {b : UInt8} (member : b ∈ quotePlus text) :
    b.toNat < 0x80 ∧ b ≠ 0x26 ∧ b ≠ 0x3d := by
  obtain ⟨original, _, inside⟩ := List.mem_flatMap.mp member
  unfold quotePlusByte at inside
  split at inside
  · rw [List.mem_singleton.mp inside]
    decide
  · have plain := isQuoted_plain (List.all_eq_true.mp (quoteByte_quoted original) b inside)
    exact ⟨plain.1, plain.2.1, plain.2.2.1⟩

theorem queryField_formField (keepBlankValues : Bool) (field : List Char × List Char)
    (kept : keepBlankValues = true ∨ field.2 ≠ []) :
    queryField keepBlankValues (formField field) = some field := by
  have passes : ∀ b ∈ quotePlus field.1, decide (b ≠ 0x3d) = true :=
    fun b member => decide_eq_true (quotePlus_unmarked member).2.2
  have filled : (keepBlankValues || !(quotePlus field.2).isEmpty) = true := by
    rcases kept with keep | filled
    · rw [keep]
      rfl
    · have some_bytes : quotePlus field.2 ≠ [] := by
        intro empty
        have back := unquote_quotePlus field.2
        rw [empty] at back
        exact filled back.symm
      rw [Bool.or_eq_true, Bool.not_eq_true', List.isEmpty_eq_false_iff]
      exact Or.inr some_bytes
  unfold queryField formField
  rw [List.dropWhile_append_of_pos passes, List.takeWhile_append_of_pos passes,
    List.dropWhile_cons_of_neg (by decide), List.takeWhile_cons_of_neg (by decide),
    List.append_nil]
  dsimp only
  rw [if_pos filled, unquote_quotePlus, unquote_quotePlus]

theorem formField_uncut (field : List Char × List Char) : 0x26 ∉ formField field := by
  intro member
  rcases List.mem_append.mp member with inName | inRest
  · exact (quotePlus_unmarked inName).2.1 rfl
  · rcases List.mem_cons.mp inRest with sign | inValue
    · exact absurd sign (by decide)
    · exact (quotePlus_unmarked inValue).2.1 rfl

/-- What is written as a form is read as the same fields; without `keep_blank_values` those
with a value. -/
theorem parseQsl_urlencode (keepBlankValues : Bool) (fields : List (List Char × List Char))
    (kept : keepBlankValues = true ∨ ∀ field ∈ fields, field.2 ≠ []) :
    parseQsl keepBlankValues (urlencode fields) = fields := by
  unfold parseQsl urlencode
  cases fields with
  | nil => cases keepBlankValues <;> rfl
  | cons field fields =>
      rw [List.splitOn_intercalate]
      · rw [List.filterMap_map]
        refine (List.filterMap_congr (fun item member => ?_)).trans (List.filterMap_some)
        exact queryField_formField keepBlankValues item
          (kept.imp id (fun filled => filled item member))
      · intro item member
        obtain ⟨original, _, same⟩ := List.mem_map.mp member
        rw [← same]
        exact formField_uncut original
      · exact List.cons_ne_nil _ _

theorem formField_ascii (field : List Char × List Char) : ∀ b ∈ formField field, b.toNat < 0x80 := by
  intro b member
  rcases List.mem_append.mp member with inName | inRest
  · exact (quotePlus_unmarked inName).1
  · rcases List.mem_cons.mp inRest with sign | inValue
    · rw [sign]
      decide
    · exact (quotePlus_unmarked inValue).1

/-- A form is ASCII text. -/
theorem urlencode_ascii (fields : List (List Char × List Char)) :
    ∀ b ∈ urlencode fields, b.toNat < 0x80 := by
  unfold urlencode
  induction fields with
  | nil => exact fun b member => absurd member List.not_mem_nil
  | cons field fields ih =>
      cases fields with
      | nil =>
          rw [List.map_singleton, List.intercalate_singleton]
          exact formField_ascii field
      | cons next fields =>
          rw [List.map_cons] at ih ⊢
          rw [List.map_cons, List.intercalate_cons_cons]
          intro b member
          rcases List.mem_append.mp member with inFront | inRest
          · rcases List.mem_append.mp inFront with inField | inMark
            · exact formField_ascii field b inField
            · rw [List.mem_singleton.mp inMark]
              decide
          · exact ih b inRest

end FolioLattice.Server
