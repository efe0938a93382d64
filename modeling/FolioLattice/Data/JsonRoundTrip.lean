/-
What `dumps` prints, `loads` reads back: the value with its surrogate pairs
joined.  Printing does not see the joining, so printed text and value determine
each other up to it.
-/

import FolioLattice.Data.Json
import Mathlib.Data.List.TakeWhile

namespace FolioLattice.Data

/-! ### Numbers -/

/-- `rest` does not continue a number. -/
def Stops (rest : List Char) : Prop :=
  ∀ c ∈ rest.head?, c.isDigit = false ∧ c ≠ '.' ∧ c ≠ 'e' ∧ c ≠ 'E'

theorem Stops.cons {c : Char} {rest : List Char}
    (other : c.isDigit = false ∧ c ≠ '.' ∧ c ≠ 'e' ∧ c ≠ 'E') : Stops (c :: rest) := by
  intro d head
  cases head
  exact other

theorem Stops.nil : Stops [] := by
  intro c head
  cases head

theorem takeWhile_digits_append {rest : List Char} (stop : Stops rest) (text : List Char) :
    (text ++ rest).takeWhile Char.isDigit = text.takeWhile Char.isDigit ∧
      (text ++ rest).dropWhile Char.isDigit = text.dropWhile Char.isDigit ++ rest := by
  induction text with
  | nil =>
      cases rest with
      | nil => simp
      | cons c tail =>
          have notDigit := (stop c rfl).1
          simp [notDigit]
  | cons c tail ih =>
      cases digit : c.isDigit with
      | true => simp [digit, ih.1, ih.2]
      | false => simp [digit]

theorem scanWhole_append {rest text whole after : List Char} (stop : Stops rest)
    (scanned : scanWhole text = some (whole, after)) :
    scanWhole (text ++ rest) = some (whole, after ++ rest) := by
  cases text with
  | nil => cases scanned
  | cons c tail =>
      have extended := takeWhile_digits_append stop tail
      simp only [List.cons_append, scanWhole] at scanned ⊢
      split at scanned
      · rename_i zero
        cases scanned
        rw [if_pos zero]
      · rename_i nonzero
        rw [if_neg nonzero]
        split at scanned
        · rename_i digit
          cases scanned
          rw [if_pos digit, extended.1, extended.2]
        · cases scanned

theorem scanFraction_append {rest : List Char} (stop : Stops rest) (text : List Char) :
    scanFraction (text ++ rest) = ((scanFraction text).1, (scanFraction text).2 ++ rest) := by
  cases text with
  | nil =>
      cases rest with
      | nil => rfl
      | cons c tail =>
          have notDot := (stop c rfl).2.1
          unfold scanFraction
          simp only [List.nil_append]
          split
          · rename_i same
            cases same
            exact absurd rfl notDot
          · rfl
  | cons c tail =>
      have extended := takeWhile_digits_append stop tail
      by_cases dot : c = '.'
      · subst dot
        simp only [List.cons_append, scanFraction, extended.1, extended.2]
        split <;> rfl
      · unfold scanFraction
        split
        · rename_i same
          cases same
          exact absurd rfl dot
        · split
          · rename_i same
            cases same
            exact absurd rfl dot
          · rfl

theorem scanExponent_append {rest text exponent : List Char} (stop : Stops rest)
    (scanned : scanExponent text = (exponent, [])) :
    scanExponent (text ++ rest) = (exponent, rest) := by
  cases text with
  | nil =>
      cases scanned
      cases rest with
      | nil => rfl
      | cons c tail =>
          obtain ⟨_, _, lower, upper⟩ := stop c rfl
          simp [scanExponent, lower, upper]
  | cons mark tail =>
      -- all of the text was read, so there is a digit after the sign
      have digits : ∀ body, splitSign (tail ++ rest) = ((splitSign tail).1, body ++ rest) →
          (splitSign tail).2 = body → scanExponent (mark :: tail ++ rest) = (exponent, rest) := by
        intro body split same
        have extended := takeWhile_digits_append stop body
        simp only [scanExponent] at scanned
        simp only [List.cons_append, scanExponent, split, extended.1, extended.2]
        rw [same] at scanned
        split at scanned
        · rename_i marked
          obtain ⟨read, nothing⟩ := Prod.mk.inj scanned
          rw [if_pos marked, nothing, ← List.cons_append, read]
          rfl
        · cases scanned
      cases tail with
      | nil =>
          simp [scanExponent, splitSign] at scanned
      | cons sign body =>
          by_cases plus : sign = '+'
          · subst plus
            exact digits body rfl rfl
          by_cases minus : sign = '-'
          · subst minus
            exact digits body rfl rfl
          · refine digits (sign :: body) ?_ ?_
            · unfold splitSign
              simp [plus, minus]
            · unfold splitSign
              simp [plus, minus]

theorem scanNumber_append {rest text : List Char} {token : NumberToken} (stop : Stops rest)
    (scanned : scanNumber text = some (token, [])) :
    scanNumber (text ++ rest) = some (token, rest) := by
  have nonempty : text ≠ [] := by
    intro empty
    subst empty
    simp [scanNumber, scanWhole] at scanned
  have head : (text ++ rest).head? = text.head? := by
    cases text with
    | nil => exact absurd rfl nonempty
    | cons c tail => rfl
  have tail : (text ++ rest).tail = text.tail ++ rest := List.tail_append_of_ne_nil nonempty
  have signed : (if (text.head? == some '-') = true then (text ++ rest).tail else text ++ rest) =
      (if (text.head? == some '-') = true then text.tail else text) ++ rest := by
    split
    · exact tail
    · rfl
  simp only [scanNumber, head] at scanned ⊢
  rw [signed]
  cases whole : scanWhole (if (text.head? == some '-') = true then text.tail else text) with
  | none =>
      rw [whole] at scanned
      cases scanned
  | some found =>
      rw [whole] at scanned
      simp only [Option.some.injEq, Prod.mk.injEq] at scanned
      have fraction := scanFraction_append stop found.2
      have exponent := scanExponent_append stop
        (Prod.ext rfl scanned.2 : scanExponent (scanFraction found.2).2 =
          ((scanExponent (scanFraction found.2).2).1, []))
      rw [scanWhole_append stop whole]
      simp only [fraction, exponent, scanned.1]

theorem toDigits_head {n : Nat} (positive : 0 < n) :
    ∃ c tail, Nat.toDigits 10 n = c :: tail ∧ c ≠ '0' ∧ c.isDigit = true := by
  induction n using Nat.strongRecOn with
  | ind n ih =>
      rw [Nat.toDigits_eq_if (by decide)]
      split
      · rename_i small
        refine ⟨Nat.digitChar n, [], rfl, ?_⟩
        have all : ∀ d < 10, 0 < d → Nat.digitChar d ≠ '0' ∧ (Nat.digitChar d).isDigit = true := by
          decide
        exact all n small positive
      · obtain ⟨c, tail, split, nonzero, digit⟩ := ih (n / 10) (by omega) (by omega)
        exact ⟨c, tail ++ [Nat.digitChar (n % 10)], by rw [split]; rfl, nonzero, digit⟩

theorem toDigits_isDigit (n : Nat) : ∀ c ∈ Nat.toDigits 10 n, c.isDigit = true :=
  fun _ member => Nat.isDigit_of_mem_toDigits (by decide) (by decide) member

theorem scanWhole_toDigits {rest : List Char} (stop : Stops rest) (n : Nat) :
    scanWhole (Nat.toDigits 10 n ++ rest) = some (Nat.toDigits 10 n, rest) := by
  have bare : scanWhole (Nat.toDigits 10 n) = some (Nat.toDigits 10 n, []) := by
    rcases Nat.eq_zero_or_pos n with zero | positive
    · subst zero
      rfl
    · obtain ⟨c, tail, split, nonzero, digit⟩ := toDigits_head positive
      have digits : ∀ d ∈ tail, d.isDigit = true := by
        intro d member
        apply toDigits_isDigit n
        rw [split]
        exact List.mem_cons_of_mem c member
      rw [split]
      simp only [scanWhole, if_neg nonzero, if_pos digit]
      rw [List.takeWhile_eq_self_iff.mpr digits, List.dropWhile_eq_nil_iff.mpr digits]
  have extended := scanWhole_append stop bare
  rwa [List.nil_append] at extended

theorem scanFraction_of_stops {rest : List Char} (stop : Stops rest) :
    scanFraction rest = ([], rest) := by
  have extended := scanFraction_append stop []
  simpa [scanFraction] using extended

theorem scanExponent_of_stops {rest : List Char} (stop : Stops rest) :
    scanExponent rest = ([], rest) := by
  have extended := scanExponent_append stop (show scanExponent [] = ([], []) from rfl)
  simpa using extended

theorem digit_not_minus {c : Char} (digit : c.isDigit = true) : c ≠ '-' := by
  intro same
  subst same
  revert digit
  decide

theorem toDigits_head_digit (n : Nat) :
    ∃ c tail, Nat.toDigits 10 n = c :: tail ∧ c.isDigit = true := by
  cases split : Nat.toDigits 10 n with
  | nil => exact absurd split Nat.toDigits_ne_nil
  | cons c tail =>
      refine ⟨c, tail, rfl, ?_⟩
      apply toDigits_isDigit n
      rw [split]
      exact List.mem_cons_self

theorem scanNumber_printInt {rest : List Char} (stop : Stops rest) (value : Int) :
    scanNumber (printInt value ++ rest) =
      some (⟨decide (value < 0), Nat.toDigits 10 value.natAbs, [], []⟩, rest) := by
  by_cases negative : value < 0
  · simp [scanNumber, printInt, negative, scanWhole_toDigits stop, scanFraction_of_stops stop,
      scanExponent_of_stops stop]
  · obtain ⟨c, tail, split, digit⟩ := toDigits_head_digit value.natAbs
    have head : ((Nat.toDigits 10 value.natAbs ++ rest).head? == some '-') = false := by
      rw [split]
      simp [digit_not_minus digit]
    simp only [scanNumber, printInt, if_neg negative, List.nil_append, head, Bool.false_eq_true,
      if_false, scanWhole_toDigits stop, scanFraction_of_stops stop, scanExponent_of_stops stop,
      decide_eq_false negative]

theorem parseNumber_printInt {F : Type} [FloatFormat F] {rest : List Char} (stop : Stops rest)
    {value : Int} (short : intEncodable value = true) :
    parseNumber (F := F) (printInt value ++ rest) = .ok (.int value, rest) := by
  have length : ¬maxIntDigits < (Nat.toDigits 10 value.natAbs).length := by
    unfold intEncodable at short
    have bound := of_decide_eq_true short
    omega
  unfold parseNumber
  rw [scanNumber_printInt stop]
  simp only [NumberToken.isFloat, List.isEmpty_nil, Bool.and_self, Bool.not_true,
    Bool.false_eq_true, if_false, if_neg length, Nat.ofDigitChars_ten_toDigits,
    decide_eq_true_eq]
  split
  · rename_i negative
    have magnitude : -(value.natAbs : Int) = value := by omega
    rw [magnitude]
  · rename_i nonnegative
    have magnitude : (value.natAbs : Int) = value := by omega
    rw [magnitude]

/-! ### Strings -/

theorem hexValue_digitChar {n : Nat} (bound : n < 16) : hexValue (Nat.digitChar n) = some n := by
  have all : ∀ d < 16, hexValue (Nat.digitChar d) = some d := by
    decide
  exact all n bound

theorem scanUnits_escapeUnit {unit : Nat} (bound : unit < 0x10000) (rest : List Char) :
    scanUnits (escapeUnit unit ++ rest) =
      (scanUnits rest).map (fun p => (Fin.ofNat 0x110000 unit :: p.1, p.2)) := by
  have joined : unit / 4096 % 16 * 4096 + unit / 256 % 16 * 256 + unit / 16 % 16 * 16 +
      unit % 16 = unit := by
    omega
  have hex : hexUnit (Nat.digitChar (unit / 4096 % 16)) (Nat.digitChar (unit / 256 % 16))
      (Nat.digitChar (unit / 16 % 16)) (Nat.digitChar (unit % 16)) =
        some (Fin.ofNat 0x110000 unit) := by
    simp only [hexUnit, hexValue_digitChar (Nat.mod_lt _ (by decide : 0 < 16)),
      Option.bind_eq_bind, Option.bind_some, joined]
  simp only [escapeUnit, List.cons_append, List.nil_append]
  rw [scanUnits]
  simp only [hex]

theorem shortEscape_unescape {c : Nat} {letter : Char} (short : shortEscape c = some letter) :
    unescape letter = some (Fin.ofNat 0x110000 c) ∧ letter ≠ 'u' := by
  unfold shortEscape at short
  split at short
  · rename_i same; cases short; subst same; decide
  split at short
  · rename_i same; cases short; subst same; decide
  split at short
  · rename_i same; cases short; subst same; decide
  split at short
  · rename_i same; cases short; subst same; decide
  split at short
  · rename_i same; cases short; subst same; decide
  split at short
  · rename_i same; cases short; subst same; decide
  split at short
  · rename_i same; cases short; subst same; decide
  · cases short

/-- The units `dumps` writes for a string: an astral code point gives two. -/
def splitUnits : PyStr → PyStr
  | [] => []
  | c :: rest =>
      if c.val < 0x10000 then c :: splitUnits rest
      else
        Fin.ofNat 0x110000 (0xd800 + (c.val - 0x10000) / 0x400) ::
          Fin.ofNat 0x110000 (0xdc00 + (c.val - 0x10000) % 0x400) :: splitUnits rest

theorem ofNat_val (c : CodePoint) : Fin.ofNat 0x110000 c.val = c := by
  apply Fin.ext
  simp [Fin.ofNat, Nat.mod_eq_of_lt c.isLt]

theorem scanUnits_escapeChar (c : CodePoint) (rest : List Char) :
    scanUnits (escapeChar c ++ rest) =
      (scanUnits rest).map (fun p => (splitUnits [c] ++ p.1, p.2)) := by
  unfold escapeChar
  cases short : shortEscape c.val with
  | some letter =>
      obtain ⟨read, notUnit⟩ := shortEscape_unescape short
      have small : c.val < 0x10000 := by
        unfold shortEscape at short
        by_contra large
        have : c.val ≠ 0x22 ∧ c.val ≠ 0x5c ∧ c.val ≠ 0x08 ∧ c.val ≠ 0x0c ∧ c.val ≠ 0x0a ∧
            c.val ≠ 0x0d ∧ c.val ≠ 0x09 := by
          omega
        simp [this] at short
      simp only [List.cons_append, List.nil_append, splitUnits, if_pos small]
      rw [scanUnits.eq_4]
      · simp only [read, ofNat_val]
      · intro a b d e tail same
        exact absurd same notUnit
  | none =>
      simp only
      split
      · rename_i printable
        have valid : c.val.isValidChar := by
          left
          omega
        have value : (Char.ofNat c.val).toNat = c.val := by
          unfold Char.ofNat
          rw [dif_pos valid]
          rfl
        have notQuote : Char.ofNat c.val ≠ '"' := by
          intro same
          have code : c.val = 0x22 := by rw [← value, same]; rfl
          simp [shortEscape, code] at short
        have notSlash : Char.ofNat c.val ≠ '\\' := by
          intro same
          have code : c.val = 0x5c := by rw [← value, same]; rfl
          simp [shortEscape, code] at short
        have small : c.val < 0x10000 := by omega
        have again : codePoint (Char.ofNat c.val) = c := by
          unfold codePoint
          rw [value, ofNat_val]
        have visible : ¬(Char.ofNat c.val = '\\' ∨ (Char.ofNat c.val).toNat < 0x20) := by
          rw [value]
          rintro (same | control)
          · exact notSlash same
          · omega
        simp only [List.cons_append, List.nil_append, splitUnits, if_pos small]
        rw [scanUnits.eq_5]
        · rw [if_neg visible, again]
        · intro same
          exact notQuote same
        · intro a b d e tail same
          exact absurd same notSlash
        · intro letter tail same
          exact absurd same notSlash
      · split
        · rename_i small
          rw [scanUnits_escapeUnit small]
          simp only [splitUnits, if_pos small, ofNat_val, List.cons_append, List.nil_append]
        · rename_i large
          have limit := c.isLt
          rw [List.append_assoc, scanUnits_escapeUnit (by omega), scanUnits_escapeUnit (by omega)]
          simp only [splitUnits, if_neg large, List.cons_append, List.nil_append]
          cases scanUnits rest <;> rfl

theorem splitUnits_cons (c : CodePoint) (rest : PyStr) :
    splitUnits (c :: rest) = splitUnits [c] ++ splitUnits rest := by
  by_cases small : c.val < 0x10000
  · simp [splitUnits, small]
  · simp [splitUnits, small]

theorem scanUnits_escaped (text : PyStr) (rest : List Char) :
    scanUnits (text.flatMap escapeChar ++ '"' :: rest) = .ok (splitUnits text, rest) := by
  induction text with
  | nil => simp [scanUnits, splitUnits]
  | cons c tail ih =>
      rw [List.flatMap_cons, List.append_assoc, scanUnits_escapeChar, ih, splitUnits_cons c tail]
      rfl

theorem isHigh_escaped {c : CodePoint} (large : ¬c.val < 0x10000) :
    isHigh (Fin.ofNat 0x110000 (0xd800 + (c.val - 0x10000) / 0x400)) = true ∧
      isLow (Fin.ofNat 0x110000 (0xd800 + (c.val - 0x10000) / 0x400)) = false ∧
      isLow (Fin.ofNat 0x110000 (0xdc00 + (c.val - 0x10000) % 0x400)) = true ∧
      joinPair (Fin.ofNat 0x110000 (0xd800 + (c.val - 0x10000) / 0x400))
        (Fin.ofNat 0x110000 (0xdc00 + (c.val - 0x10000) % 0x400)) = c := by
  have limit := c.isLt
  have high : (0xd800 + (c.val - 0x10000) / 0x400) % 0x110000 =
      0xd800 + (c.val - 0x10000) / 0x400 := Nat.mod_eq_of_lt (by omega)
  have low : (0xdc00 + (c.val - 0x10000) % 0x400) % 0x110000 =
      0xdc00 + (c.val - 0x10000) % 0x400 := Nat.mod_eq_of_lt (by omega)
  refine ⟨?_, ?_, ?_, ?_⟩
  · simp only [isHigh, Fin.ofNat, high, Bool.and_eq_true, decide_eq_true_eq]
    omega
  · simp only [isLow, Fin.ofNat, high, Bool.and_eq_false_iff, decide_eq_false_iff_not]
    omega
  · simp only [isLow, Fin.ofNat, low, Bool.and_eq_true, decide_eq_true_eq]
    omega
  · apply Fin.ext
    simp only [joinPair, Fin.ofNat, high, low]
    omega

theorem joinPairs_cons_of_not_high {c : CodePoint} (other : isHigh c = false) (rest : PyStr) :
    joinPairs (c :: rest) = c :: joinPairs rest := by
  cases rest with
  | nil => rfl
  | cons d tail => simp [joinPairs, other]

theorem joinPairs_cons_of_not_low {c d : CodePoint} (other : isLow d = false) (rest : PyStr) :
    joinPairs (c :: d :: rest) = c :: joinPairs (d :: rest) := by
  simp [joinPairs, other]

theorem isHigh_small {c : CodePoint} (large : ¬c.val < 0x10000) :
    isHigh c = false ∧ isLow c = false := by
  simp only [isHigh, isLow, Bool.and_eq_false_iff, decide_eq_false_iff_not]
  omega

/-- The reader puts every pair back together, those of the text included. -/
theorem joinPairs_splitUnits (text : PyStr) : joinPairs (splitUnits text) = joinPairs text := by
  induction text using joinPairs.induct with
  | case1 => rfl
  | case2 c =>
      by_cases small : c.val < 0x10000
      · simp [splitUnits, small]
      · obtain ⟨high, _, low, joined⟩ := isHigh_escaped small
        simp only [splitUnits, if_neg small, joinPairs, high, low, joined, Bool.and_self, if_true]
  | case3 high low rest pair ih =>
      rw [Bool.and_eq_true] at pair
      have smallHigh : high.val < 0x10000 := by
        by_contra large
        rw [(isHigh_small large).1] at pair
        cases pair.1
      have smallLow : low.val < 0x10000 := by
        by_contra large
        rw [(isHigh_small large).2] at pair
        cases pair.2
      simp [splitUnits, smallHigh, smallLow, joinPairs, pair.1, pair.2, ih]
  | case4 c d rest pair ih =>
      have apart : joinPairs (c :: d :: rest) = c :: joinPairs (d :: rest) := by
        simp only [joinPairs, if_neg pair]
      rw [apart, ← ih]
      by_cases small : c.val < 0x10000
      · cases highUnit : isHigh c with
        | false =>
            rw [splitUnits, if_pos small, joinPairs_cons_of_not_high highUnit]
        | true =>
            rw [splitUnits, if_pos small]
            by_cases smallNext : d.val < 0x10000
            · have notLow : isLow d = false := by
                rw [highUnit, Bool.true_and, Bool.not_eq_true] at pair
                exact pair
              rw [splitUnits, if_pos smallNext, joinPairs_cons_of_not_low notLow]
            · rw [splitUnits, if_neg smallNext,
                joinPairs_cons_of_not_low (isHigh_escaped smallNext).2.1]
      · obtain ⟨high, _, low, joined⟩ := isHigh_escaped small
        rw [splitUnits, if_neg small]
        simp only [joinPairs, high, low, joined, Bool.and_self, if_true]

theorem scanString_printed (text : PyStr) (rest : List Char) :
    scanString (text.flatMap escapeChar ++ '"' :: rest) = .ok (joinPairs text, rest) := by
  unfold scanString
  rw [scanUnits_escaped]
  exact congrArg (fun joined => Except.ok (joined, rest)) (joinPairs_splitUnits text)

/-! ### Values -/

mutual
/-- What a reader of the printed value gets. -/
def Json.reread {F : Type} : Json F → Json F
  | .str value => .str (joinPairs value)
  | .arr items => .arr (rereadItems items)
  | .obj entries => .obj (dictOf (rereadEntries entries))
  | .null => .null
  | .bool value => .bool value
  | .int value => .int value
  | .float value => .float value

def rereadItems {F : Type} : List (Json F) → List (Json F)
  | [] => []
  | item :: rest => item.reread :: rereadItems rest

def rereadEntries {F : Type} : List (PyStr × Json F) → List (PyStr × Json F)
  | [] => []
  | (key, value) :: rest => (joinPairs key, value.reread) :: rereadEntries rest
end

/-- How the text of a value can begin. -/
def startsValue (c : Char) : Prop := isJsonSpace c = false ∧ c ≠ ']' ∧ c ≠ '}'

instance (c : Char) : Decidable (startsValue c) :=
  inferInstanceAs (Decidable (_ ∧ _ ∧ _))

theorem digit_starts {c : Char} (digit : c.isDigit = true) : startsValue c := by
  refine ⟨?_, ?_, ?_⟩
  · by_contra space
    simp only [isJsonSpace, Bool.not_eq_false, Bool.or_eq_true, beq_iff_eq] at space
    rcases space with ((same | same) | same) | same <;> subst same <;> revert digit <;> decide
  · rintro rfl
    revert digit
    decide
  · rintro rfl
    revert digit
    decide

theorem skipSpace_of_starts {c : Char} (starts : startsValue c) (rest : List Char) :
    skipSpace (c :: rest) = c :: rest := by
  simp [skipSpace, starts.1]

/-- Number texts: a digit, or a minus and a digit. -/
def NumberHead (text : List Char) : Prop :=
  (∃ c tail, text = c :: tail ∧ c.isDigit = true) ∨
    (∃ c tail, text = '-' :: c :: tail ∧ c.isDigit = true)

theorem NumberHead.append {text : List Char} (head : NumberHead text) (rest : List Char) :
    NumberHead (text ++ rest) := by
  rcases head with ⟨c, tail, split, digit⟩ | ⟨c, tail, split, digit⟩
  · exact Or.inl ⟨c, tail ++ rest, by rw [split]; rfl, digit⟩
  · exact Or.inr ⟨c, tail ++ rest, by rw [split]; rfl, digit⟩

theorem NumberHead.starts {text : List Char} (head : NumberHead text) :
    ∃ c tail, text = c :: tail ∧ startsValue c := by
  rcases head with ⟨c, tail, split, digit⟩ | ⟨c, tail, split, digit⟩
  · exact ⟨c, tail, split, digit_starts digit⟩
  · exact ⟨'-', c :: tail, split, by decide, by decide, by decide⟩

theorem numberHead_printInt (value : Int) : NumberHead (printInt value) := by
  obtain ⟨c, tail, split, digit⟩ := toDigits_head_digit value.natAbs
  unfold printInt
  rw [split]
  split
  · exact Or.inr ⟨c, tail, rfl, digit⟩
  · exact Or.inl ⟨c, tail, rfl, digit⟩

theorem scanWhole_digit {text : List Char} {result : List Char × List Char}
    (scanned : scanWhole text = some result) :
    ∃ c tail, text = c :: tail ∧ c.isDigit = true := by
  cases text with
  | nil => cases scanned
  | cons c tail =>
      simp only [scanWhole] at scanned
      refine ⟨c, tail, rfl, ?_⟩
      split at scanned
      · rename_i zero
        subst zero
        decide
      · split at scanned
        · assumption
        · cases scanned

theorem numberHead_of_scanNumber {text : List Char} {result : NumberToken × List Char}
    (scanned : scanNumber text = some result) : NumberHead text := by
  simp only [scanNumber] at scanned
  cases whole : scanWhole (if (text.head? == some '-') = true then text.tail else text) with
  | none =>
      rw [whole] at scanned
      cases scanned
  | some found =>
      obtain ⟨c, tail, split, digit⟩ := scanWhole_digit whole
      split at split
      · rename_i minus
        cases text with
        | nil => cases minus
        | cons first rest =>
            simp only [List.head?_cons, beq_iff_eq, Option.some.injEq] at minus
            subst minus
            exact Or.inr ⟨c, tail, congrArg ('-' :: ·) split, digit⟩
      · exact Or.inl ⟨c, tail, split, digit⟩

theorem parseConstant_number {F : Type} {text : List Char} (head : NumberHead text) :
    parseConstant (F := F) text = none := by
  rcases head with ⟨c, tail, split, digit⟩ | ⟨c, tail, split, digit⟩
  · subst split
    have other : ∀ d : Char, d.isDigit = false → c ≠ d := by
      intro d letter same
      rw [same, letter] at digit
      cases digit
    simp [parseConstant, other 'n' (by decide), other 't' (by decide), other 'f' (by decide),
      other 'N' (by decide), other 'I' (by decide), other '-' (by decide)]
  · subst split
    have other : c ≠ 'I' := by
      intro same
      rw [same] at digit
      revert digit
      decide
    simp [parseConstant, other]

theorem parseValue_number {F : Type} [FloatFormat F] {text : List Char} (head : NumberHead text)
    (fuel : Nat) : parseValue (F := F) (fuel + 1) text = parseNumber text := by
  have constant := parseConstant_number (F := F) head
  have other : ∀ c tail, text = c :: tail → c ≠ '"' ∧ c ≠ '[' ∧ c ≠ '{' := by
    intro c tail split
    rcases head with ⟨d, rest, start, digit⟩ | ⟨d, rest, start, digit⟩
    · rw [start] at split
      cases split
      refine ⟨?_, ?_, ?_⟩ <;> rintro rfl <;> revert digit <;> decide
    · rw [start] at split
      cases split
      decide
  unfold parseValue
  split
  · exact absurd rfl (other _ _ rfl).1
  · exact absurd rfl (other _ _ rfl).2.1
  · exact absurd rfl (other _ _ rfl).2.2
  · rw [constant]

theorem numberHead_repr {F : Type} [FloatFormat F] (value : F) :
    NumberHead (FloatFormat.repr value) := by
  obtain ⟨token, _, _, scanned⟩ := FloatFormat.repr_scan value
  exact numberHead_of_scanNumber scanned

theorem parseNumber_repr {F : Type} [FloatFormat F] {rest : List Char} (stop : Stops rest)
    (value : F) :
    parseNumber (FloatFormat.repr value ++ rest) = .ok (.float (.finite value), rest) := by
  obtain ⟨token, float, text, scanned⟩ := FloatFormat.repr_scan value
  unfold parseNumber
  rw [scanNumber_append stop scanned]
  simp only [float, if_true, text, FloatFormat.parse_repr]

theorem print_starts {F : Type} [FloatFormat F] (value : Json F) :
    ∃ c tail, value.print = c :: tail ∧ startsValue c := by
  cases value with
  | null => exact ⟨'n', _, rfl, by decide, by decide, by decide⟩
  | bool b =>
      cases b with
      | false => exact ⟨'f', _, rfl, by decide, by decide, by decide⟩
      | true => exact ⟨'t', _, rfl, by decide, by decide, by decide⟩
  | int n =>
      rw [Json.print]
      exact (numberHead_printInt n).starts
  | float x =>
      rw [Json.print]
      cases x with
      | finite x => exact (numberHead_repr x).starts
      | infinity negative =>
          cases negative with
          | false => exact ⟨'I', _, rfl, by decide, by decide, by decide⟩
          | true => exact ⟨'-', _, rfl, by decide, by decide, by decide⟩
      | nan => exact ⟨'N', _, rfl, by decide, by decide, by decide⟩
  | str text =>
      rw [Json.print]
      exact ⟨'"', _, rfl, by decide, by decide, by decide⟩
  | arr items =>
      rw [Json.print]
      exact ⟨'[', _, rfl, by decide, by decide, by decide⟩
  | obj entries =>
      rw [Json.print]
      exact ⟨'{', _, rfl, by decide, by decide, by decide⟩

theorem skipSpace_print {F : Type} [FloatFormat F] (value : Json F) (rest : List Char) :
    skipSpace (value.print ++ rest) = value.print ++ rest := by
  obtain ⟨c, tail, split, starts⟩ := print_starts value
  rw [split, List.cons_append, skipSpace_of_starts starts]

theorem printMoreItems_cons {F : Type} [FloatFormat F] (item : Json F) (rest : List (Json F)) :
    printMoreItems (item :: rest) = ',' :: printItems (item :: rest) := by
  simp only [printMoreItems, printItems, List.cons_append]

theorem printMoreEntries_cons {F : Type} [FloatFormat F] (entry : PyStr × Json F)
    (rest : List (PyStr × Json F)) :
    printMoreEntries (entry :: rest) = ',' :: printEntries (entry :: rest) := by
  simp only [printMoreEntries, printEntries, List.cons_append]

theorem skipSpace_printItems {F : Type} [FloatFormat F] (item : Json F) (items : List (Json F))
    (rest : List Char) :
    skipSpace (printItems (item :: items) ++ rest) = printItems (item :: items) ++ rest := by
  rw [printItems, List.append_assoc, skipSpace_print]

theorem skipSpace_printEntries {F : Type} [FloatFormat F] (entry : PyStr × Json F)
    (entries : List (PyStr × Json F)) (rest : List Char) :
    skipSpace (printEntries (entry :: entries) ++ rest) =
      printEntries (entry :: entries) ++ rest := by
  simp only [printEntries, printString, List.cons_append]
  exact skipSpace_of_starts (by decide) _

-- By recursion on the fuel, as the reader: the fuel left covers the text left, and after each
-- part stands a comma, a bracket or the end, which continue no number.
mutual
theorem parseValue_print {F : Type} [FloatFormat F] (value : Json F)
    (encodable : value.encodable true = true) (fuel : Nat)
    (enough : 2 * value.print.length + 1 ≤ fuel) {rest : List Char} (stop : Stops rest) :
    parseValue fuel (value.print ++ rest) = .ok (value.reread, rest) := by
  obtain ⟨fuel, rfl⟩ : ∃ less, fuel = less + 1 := ⟨fuel - 1, by omega⟩
  match value with
  | .null => simp [Json.print, parseValue, parseConstant, Json.reread]
  | .bool b => cases b <;> simp [Json.print, parseValue, parseConstant, Json.reread]
  | .int n =>
      rw [Json.encodable] at encodable
      rw [Json.print, parseValue_number ((numberHead_printInt n).append rest),
        parseNumber_printInt stop encodable, Json.reread]
  | .float x =>
      rw [Json.print, Json.reread]
      cases x with
      | finite x =>
          rw [printFloat, parseValue_number ((numberHead_repr x).append rest),
            parseNumber_repr stop]
      | infinity negative =>
          cases negative <;> simp [printFloat, parseValue, parseConstant]
      | nan => simp [printFloat, parseValue, parseConstant]
  | .str text =>
      simp only [Json.print, printString, List.cons_append, List.append_assoc, parseValue,
        List.nil_append, scanString_printed, Json.reread]
      rfl
  | .arr [] => simp [Json.print, printItems, parseValue, skipSpace, isJsonSpace, Json.reread,
      rereadItems]
  | .arr (item :: items) =>
      rw [Json.encodable] at encodable
      simp only [Json.print, List.length_append, List.length_cons, List.length_nil] at enough
      have items_read := parseItems_print item items encodable fuel (by omega) rest
      obtain ⟨c, tail, split, starts⟩ := print_starts item
      simp only [Json.print, List.cons_append, List.append_assoc, List.nil_append, parseValue,
        skipSpace_printItems, Json.reread]
      split
      · rename_i closed
        rw [printItems, split] at closed
        cases closed
        exact absurd rfl starts.2.1
      · rw [items_read]
        rfl
  | .obj [] => simp [Json.print, printEntries, parseValue, skipSpace, isJsonSpace, Json.reread,
      rereadEntries, dictOf]
  | .obj (entry :: entries) =>
      rw [Json.encodable] at encodable
      simp only [Json.print, List.length_append, List.length_cons, List.length_nil] at enough
      have entries_read := parseEntries_print entry entries encodable fuel (by omega) rest
      simp only [Json.print, List.cons_append, List.append_assoc, List.nil_append, parseValue,
        skipSpace_printEntries, Json.reread]
      split
      · rename_i closed
        simp only [printEntries, printString, List.cons_append] at closed
        cases closed
      · rw [entries_read]
        rfl
termination_by fuel

theorem parseItems_print {F : Type} [FloatFormat F] (item : Json F) (items : List (Json F))
    (encodable : encodableItems true (item :: items) = true) (fuel : Nat)
    (enough : 2 * (printItems (item :: items)).length + 2 ≤ fuel) (rest : List Char) :
    parseItems fuel (printItems (item :: items) ++ ']' :: rest) =
      .ok (rereadItems (item :: items), rest) := by
  obtain ⟨fuel, rfl⟩ : ∃ less, fuel = less + 1 := ⟨fuel - 1, by omega⟩
  rw [encodableItems, Bool.and_eq_true] at encodable
  simp only [printItems, List.length_append] at enough
  have close : Stops (']' :: rest) := Stops.cons (by decide)
  have comma : ∀ more, Stops (',' :: more) := fun more => Stops.cons (by decide)
  match items with
  | [] =>
      have item_read := parseValue_print item encodable.1 fuel (by omega) close
      simp only [printItems, printMoreItems, List.append_nil, parseItems, item_read,
        rereadItems]
      rfl
  | next :: items =>
      rw [printMoreItems_cons, List.length_cons] at enough
      have item_read := parseValue_print item encodable.1 fuel (by omega)
        (comma (printItems (next :: items) ++ ']' :: rest))
      have items_read := parseItems_print next items encodable.2 fuel (by omega) rest
      rw [printItems, printMoreItems_cons, List.append_assoc, List.cons_append, parseItems,
        item_read, rereadItems]
      have skipped : skipSpace (',' :: (printItems (next :: items) ++ ']' :: rest)) =
          ',' :: (printItems (next :: items) ++ ']' :: rest) :=
        skipSpace_of_starts (by decide) _
      simp only [skipped, skipSpace_printItems, items_read]
      rfl
termination_by fuel

theorem parseEntries_print {F : Type} [FloatFormat F] (entry : PyStr × Json F)
    (entries : List (PyStr × Json F))
    (encodable : encodableEntries true (entry :: entries) = true) (fuel : Nat)
    (enough : 2 * (printEntries (entry :: entries)).length + 2 ≤ fuel) (rest : List Char) :
    parseEntries fuel (printEntries (entry :: entries) ++ '}' :: rest) =
      .ok (rereadEntries (entry :: entries), rest) := by
  obtain ⟨fuel, rfl⟩ : ∃ less, fuel = less + 1 := ⟨fuel - 1, by omega⟩
  obtain ⟨key, value⟩ := entry
  rw [encodableEntries, Bool.and_eq_true] at encodable
  simp only [printEntries, printString, List.cons_append, List.length_append,
    List.length_cons] at enough
  have close : Stops ('}' :: rest) := Stops.cons (by decide)
  have comma : ∀ more, Stops (',' :: more) := fun more => Stops.cons (by decide)
  have colon : ∀ more, skipSpace (':' :: more) = ':' :: more :=
    fun more => skipSpace_of_starts (by decide) more
  match entries with
  | [] =>
      have value_read := parseValue_print value encodable.1 fuel (by omega) close
      simp only [printEntries, printMoreEntries, printString, List.cons_append,
        List.append_assoc, List.nil_append, parseEntries, scanString_printed, colon,
        skipSpace_print, value_read, rereadEntries]
      rfl
  | next :: entries =>
      rw [printMoreEntries_cons, List.length_cons] at enough
      have value_read := parseValue_print value encodable.1 fuel (by omega)
        (comma (printEntries (next :: entries) ++ '}' :: rest))
      have entries_read := parseEntries_print next entries encodable.2 fuel (by omega) rest
      have skipped : skipSpace (',' :: (printEntries (next :: entries) ++ '}' :: rest)) =
          ',' :: (printEntries (next :: entries) ++ '}' :: rest) :=
        skipSpace_of_starts (by decide) _
      rw [printEntries, printMoreEntries_cons]
      simp only [printString, List.cons_append, List.append_assoc, List.nil_append, parseEntries,
        scanString_printed, colon, skipSpace_print, value_read, skipped, skipSpace_printEntries,
        entries_read, rereadEntries]
      rfl
termination_by fuel
end

theorem loads_print {F : Type} [FloatFormat F] {value : Json F}
    (encodable : value.encodable true = true) : loads value.print = .ok value.reread := by
  have read := parseValue_print value encodable (2 * value.print.length + 2) (by omega) Stops.nil
  have skipped := skipSpace_print value []
  rw [List.append_nil] at read skipped
  unfold loads
  rw [skipped, read]
  rfl

end FolioLattice.Data
