/-
Base 64 with the URL-safe letters and without padding.
-/

import FolioLattice.Data.Base64
import Mathlib.Data.List.DropRight

namespace FolioLattice.Data

open FolioLattice.Text (Bytes)

/-- `urlsafe_b64encode` translates two letters. -/
def urlsafeLetter (c : Char) : Char := if c = '+' then '-' else if c = '/' then '_' else c

/-- `b64decode` with `altchars=b"-_"` translates them back. -/
def standardLetter (c : Char) : Char := if c = '-' then '+' else if c = '_' then '/' else c

/-- `urlsafe_b64encode(value).rstrip(b"=")`. -/
def b64url (value : Bytes) : List Char :=
  ((b64encode value).map urlsafeLetter).rdropWhile (fun c => c = '=')

/-- `value + "=" * (-len(value) % 4)`. -/
def padded (value : List Char) : List Char :=
  value ++ List.replicate ((4 - value.length % 4) % 4) '='

def b64urldecode (value : List Char) : Option Bytes := b64decode ((padded value).map standardLetter)

def isUrlLetter (c : Char) : Bool :=
  ('A' ≤ c && c ≤ 'Z') || ('a' ≤ c && c ≤ 'z') || ('0' ≤ c && c ≤ '9') || c = '_' || c = '-'

theorem base64Letter_urlsafe {n : Nat} (bound : n < 64) :
    isUrlLetter (urlsafeLetter (base64Letter n)) = true ∧
      standardLetter (urlsafeLetter (base64Letter n)) = base64Letter n := by
  have all : ∀ m < 64, isUrlLetter (urlsafeLetter (base64Letter m)) = true ∧
      standardLetter (urlsafeLetter (base64Letter m)) = base64Letter m := by
    decide
  exact all n bound

/-- A letter of the alphabet. -/
def IsLetter (c : Char) : Prop := ∃ n < 64, c = base64Letter n

theorem isLetter {n : Nat} (bound : n < 64) : IsLetter (base64Letter n) := ⟨n, bound, rfl⟩

/-- The letters of an encoding, and how much padding follows them. -/
theorem b64encode_letters (value : Bytes) :
    ∃ letters, b64encode value = letters ++ List.replicate ((4 - letters.length % 4) % 4) '=' ∧
      (∀ c ∈ letters, IsLetter c) ∧ letters.length % 4 ≠ 1 ∧ (value ≠ [] → letters ≠ []) := by
  induction value using b64encode.induct with
  | case1 => exact ⟨[], rfl, by simp, by decide, fun some => absurd rfl some⟩
  | case2 a =>
      have small := a.toNat_lt
      have first : IsLetter (base64Letter (a.toNat / 4)) := isLetter (by omega)
      have second : IsLetter (base64Letter (a.toNat % 4 * 16)) := isLetter (by omega)
      exact ⟨[_, _], rfl, by simp [first, second], by simp, by simp⟩
  | case3 a b =>
      have smallA := a.toNat_lt
      have smallB := b.toNat_lt
      have first : IsLetter (base64Letter (a.toNat / 4)) := isLetter (by omega)
      have second : IsLetter (base64Letter (a.toNat % 4 * 16 + b.toNat / 16)) :=
        isLetter (by omega)
      have third : IsLetter (base64Letter (b.toNat % 16 * 4)) := isLetter (by omega)
      exact ⟨[_, _, _], rfl, by simp [first, second, third], by simp, by simp⟩
  | case4 a b c rest ih =>
      have smallA := a.toNat_lt
      have smallB := b.toNat_lt
      have smallC := c.toNat_lt
      obtain ⟨letters, same, all, whole, _⟩ := ih
      have first : IsLetter (base64Letter (a.toNat / 4)) := isLetter (by omega)
      have second : IsLetter (base64Letter (a.toNat % 4 * 16 + b.toNat / 16)) :=
        isLetter (by omega)
      have third : IsLetter (base64Letter (b.toNat % 16 * 4 + c.toNat / 64)) :=
        isLetter (by omega)
      have fourth : IsLetter (base64Letter (c.toNat % 64)) := isLetter (by omega)
      refine ⟨base64Letter (a.toNat / 4) :: base64Letter (a.toNat % 4 * 16 + b.toNat / 16) ::
        base64Letter (b.toNat % 16 * 4 + c.toNat / 64) :: base64Letter (c.toNat % 64) :: letters,
        ?_, ?_, ?_, fun _ impossible => by cases impossible⟩
      · rw [b64encode, same]
        simp only [List.length_cons, List.cons_append, Nat.add_assoc, Nat.reduceAdd,
          Nat.add_mod_right]
      · intro x member
        simp only [List.mem_cons] at member
        rcases member with same | same | same | same | inside
        · exact same ▸ first
        · exact same ▸ second
        · exact same ▸ third
        · exact same ▸ fourth
        · exact all x inside
      · simpa only [List.length_cons, Nat.add_assoc, Nat.reduceAdd, Nat.add_mod_right] using whole

theorem urlsafeLetter_pad : urlsafeLetter '=' = '=' := by decide

theorem IsLetter.urlsafe {c : Char} (letter : IsLetter c) :
    isUrlLetter (urlsafeLetter c) = true ∧ standardLetter (urlsafeLetter c) = c := by
  obtain ⟨n, bound, same⟩ := letter
  rw [same]
  exact base64Letter_urlsafe bound

theorem isUrlLetter_ne_pad {c : Char} (letter : isUrlLetter c = true) : c ≠ '=' := by
  intro same
  subst same
  revert letter
  decide

/-- The alphabet is ASCII. -/
theorem isUrlLetter_lt {c : Char} (letter : isUrlLetter c = true) : c.toNat < 128 := by
  unfold isUrlLetter at letter
  simp only [Bool.or_eq_true, Bool.and_eq_true, decide_eq_true_eq] at letter
  rcases letter with (((⟨_, high⟩ | ⟨_, high⟩) | ⟨_, high⟩) | same) | same
  · exact Nat.lt_of_le_of_lt high (by decide)
  · exact Nat.lt_of_le_of_lt high (by decide)
  · exact Nat.lt_of_le_of_lt high (by decide)
  · rw [same]
    decide
  · rw [same]
    decide

theorem rdropWhile_append_replicate {α : Type} {p : α → Bool} {items : List α} {pad : α}
    (dropped : p pad = true) (kept : ∀ x ∈ items, p x = false) (n : Nat) :
    (items ++ List.replicate n pad).rdropWhile p = items := by
  induction n with
  | zero =>
      rw [List.replicate_zero, List.append_nil]
      apply List.rdropWhile_eq_self_iff.mpr
      intro some
      rw [kept _ (List.getLast_mem some)]
      exact Bool.false_ne_true
  | succ n ih =>
      rw [List.replicate_succ', ← List.append_assoc, List.rdropWhile_concat_pos _ _ _ dropped, ih]

/-- An encoding without its padding. -/
theorem b64url_letters (value : Bytes) :
    ∃ letters, b64url value = letters.map urlsafeLetter ∧ (∀ c ∈ letters, IsLetter c) ∧
      letters.length % 4 ≠ 1 ∧ (value ≠ [] → letters ≠ []) ∧
      b64encode value = letters ++ List.replicate ((4 - letters.length % 4) % 4) '=' := by
  obtain ⟨letters, same, all, whole, some⟩ := b64encode_letters value
  refine ⟨letters, ?_, all, whole, some, same⟩
  unfold b64url
  rw [same, List.map_append, List.map_replicate, urlsafeLetter_pad]
  have noPad : ∀ c ∈ letters.map urlsafeLetter, c ≠ '=' := by
    intro c member
    obtain ⟨letter, inside, isImage⟩ := List.mem_map.mp member
    rw [← isImage]
    exact isUrlLetter_ne_pad (all letter inside).urlsafe.1
  apply rdropWhile_append_replicate (by decide)
  intro c member
  exact decide_eq_false (noPad c member)

theorem b64url_isUrlLetter (value : Bytes) : (b64url value).all isUrlLetter = true := by
  obtain ⟨letters, same, all, _⟩ := b64url_letters value
  rw [same, List.all_map, List.all_eq_true]
  exact fun c member => (all c member).urlsafe.1

theorem b64url_length (value : Bytes) : (b64url value).length % 4 ≠ 1 := by
  obtain ⟨letters, same, _, whole, _⟩ := b64url_letters value
  rw [same, List.length_map]
  exact whole

theorem b64url_ne_nil {value : Bytes} (filled : value ≠ []) : b64url value ≠ [] := by
  obtain ⟨letters, same, _, _, some, _⟩ := b64url_letters value
  rw [same]
  simpa using some filled

theorem b64encode_length_le (value : Bytes) : (b64encode value).length ≤ 4 * value.length := by
  induction value using b64encode.induct with
  | case1 => exact le_refl _
  | case2 a => exact le_refl _
  | case3 a b => exact Nat.le_add_right 4 4
  | case4 a b c rest ih =>
      simp only [b64encode, List.length_cons]
      omega

theorem b64url_length_le (value : Bytes) : (b64url value).length ≤ 4 * value.length := by
  have trimmed := (List.rdropWhile_prefix (p := fun c => c = '=')
    (l := (b64encode value).map urlsafeLetter)).length_le
  rw [List.length_map] at trimmed
  exact trimmed.trans (b64encode_length_le value)

theorem b64encode_length (value : Bytes) :
    (b64encode value).length = 4 * ((value.length + 2) / 3) := by
  induction value using b64encode.induct with
  | case1 => rfl
  | case2 a => simp only [b64encode, List.length_cons, List.length_nil, Nat.reduceAdd, Nat.reduceDiv]
  | case3 a b => simp only [b64encode, List.length_cons, List.length_nil, Nat.reduceAdd, Nat.reduceDiv]
  | case4 a b c rest ih =>
      simp only [b64encode, List.length_cons]
      omega

/-- An encoding is no shorter than its bytes; the bound is rough by the padding. -/
theorem b64url_length_ge (value : Bytes) : value.length ≤ (b64url value).length + 1 := by
  obtain ⟨letters, same, _, whole, _, encoded⟩ := b64url_letters value
  have size := congrArg List.length encoded
  rw [b64encode_length, List.length_append, List.length_replicate] at size
  rw [same, List.length_map]
  omega

theorem b64urldecode_b64url (value : Bytes) : b64urldecode (b64url value) = some value := by
  obtain ⟨letters, same, all, _, _, encoded⟩ := b64url_letters value
  have back : (letters.map urlsafeLetter).map standardLetter = letters := by
    rw [List.map_map]
    exact (List.map_congr_left (g := id) fun c member => (all c member).urlsafe.2).trans
      (List.map_id letters)
  have pad : standardLetter '=' = '=' := by decide
  unfold b64urldecode padded
  rw [same, List.length_map, List.map_append, back, List.map_replicate, pad, ← encoded]
  exact b64decode_b64encode value

theorem b64url_injective {left right : Bytes} (same : b64url left = b64url right) :
    left = right := by
  have decoded := b64urldecode_b64url left
  rw [same, b64urldecode_b64url right] at decoded
  exact (Option.some.inj decoded).symm

end FolioLattice.Data
