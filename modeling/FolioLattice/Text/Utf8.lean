/-
`bytes.decode("utf-8", errors="replace")`: the longest valid beginning of an
ill-formed sequence becomes one replacement character.
-/

import Mathlib.Data.List.Basic

namespace FolioLattice.Text

abbrev Bytes := List UInt8

def replacement : Char := Char.ofNat 0xfffd

/-- For a leading byte: how many bytes follow, the range of the next one, and
the bits it gives. -/
def leadInfo (lead : Nat) : Option (Nat × Nat × Nat × Nat) :=
  if lead < 0xc2 then none
  else if lead < 0xe0 then some (1, 0x80, 0xbf, lead - 0xc0)
  else if lead = 0xe0 then some (2, 0xa0, 0xbf, 0)
  else if lead = 0xed then some (2, 0x80, 0x9f, 0xd)
  else if lead < 0xf0 then some (2, 0x80, 0xbf, lead - 0xe0)
  else if lead = 0xf0 then some (3, 0x90, 0xbf, 0)
  else if lead < 0xf4 then some (3, 0x80, 0xbf, lead - 0xf0)
  else if lead = 0xf4 then some (3, 0x80, 0x8f, 4)
  else none

/-- The rest of a sequence; a byte out of range is left for the next one. -/
def decodeTail : (left low high bits : Nat) → Bytes → Char × Bytes
  | 0, _, _, bits, bytes => (Char.ofNat bits, bytes)
  | _ + 1, _, _, _, [] => (replacement, [])
  | left + 1, low, high, bits, byte :: rest =>
      if low ≤ byte.toNat ∧ byte.toNat ≤ high then
        decodeTail left 0x80 0xbf (bits * 64 + (byte.toNat - 0x80)) rest
      else (replacement, byte :: rest)

def decodeOne (lead : UInt8) (rest : Bytes) : Char × Bytes :=
  if lead.toNat < 0x80 then (Char.ofNat lead.toNat, rest)
  else
    match leadInfo lead.toNat with
    | none => (replacement, rest)
    | some (left, low, high, bits) => decodeTail left low high bits rest

/-- Every step reads at least its leading byte, so the number of bytes is fuel
enough. -/
def decodeFrom : Nat → Bytes → List Char
  | 0, _ => []
  | _ + 1, [] => []
  | fuel + 1, lead :: rest =>
      let (c, rest) := decodeOne lead rest
      c :: decodeFrom fuel rest

def decodeUtf8 (bytes : Bytes) : List Char := decodeFrom bytes.length bytes

theorem decodeTail_length (left low high bits : Nat) (bytes : Bytes) :
    (decodeTail left low high bits bytes).2.length ≤ bytes.length := by
  induction left generalizing low high bits bytes with
  | zero => exact Nat.le_refl _
  | succ left ih =>
      cases bytes with
      | nil => exact Nat.le_refl _
      | cons byte rest =>
          rw [decodeTail]
          split
          · have shorter := ih 0x80 0xbf (bits * 64 + (byte.toNat - 0x80)) rest
            rw [List.length_cons]
            omega
          · exact Nat.le_refl _

theorem decodeOne_length (lead : UInt8) (rest : Bytes) :
    (decodeOne lead rest).2.length ≤ rest.length := by
  unfold decodeOne
  split
  · exact Nat.le_refl _
  · split
    · exact Nat.le_refl _
    · exact decodeTail_length _ _ _ _ _

theorem decodeFrom_of_enough {fuel : Nat} {bytes : Bytes} (enough : bytes.length ≤ fuel) :
    decodeFrom fuel bytes = decodeFrom bytes.length bytes := by
  induction fuel using Nat.strongRecOn generalizing bytes with
  | ind fuel ih =>
      cases bytes with
      | nil => cases fuel <;> rfl
      | cons lead rest =>
          obtain ⟨less, rfl⟩ : ∃ less, fuel = less + 1 := by
            rw [List.length_cons] at enough
            exact ⟨fuel - 1, by omega⟩
          have shorter := decodeOne_length lead rest
          rw [List.length_cons] at enough ⊢
          simp only [decodeFrom]
          rw [ih less (by omega) (by omega)]
          rcases Nat.eq_or_lt_of_le (show rest.length ≤ less by omega) with same | smaller
          · subst same
            rw [ih rest.length (by omega) shorter]
          · rw [ih rest.length (by omega) shorter]

end FolioLattice.Text
