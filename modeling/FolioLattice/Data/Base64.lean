/-
Base 64 with padding.
-/

import FolioLattice.Text.Utf8

namespace FolioLattice.Data

open FolioLattice.Text (Bytes)

def base64Letter (n : Nat) : Char :=
  if n < 26 then Char.ofNat (65 + n)
  else if n < 52 then Char.ofNat (71 + n)
  else if n < 62 then Char.ofNat (n - 4)
  else if n = 62 then '+'
  else '/'

def base64Value (c : Char) : Option Nat :=
  if 'A' ≤ c ∧ c ≤ 'Z' then some (c.toNat - 65)
  else if 'a' ≤ c ∧ c ≤ 'z' then some (c.toNat - 71)
  else if '0' ≤ c ∧ c ≤ '9' then some (c.toNat + 4)
  else if c = '+' then some 62
  else if c = '/' then some 63
  else none

/-- `base64.b64encode`. -/
def b64encode : Bytes → List Char
  | [] => []
  | [a] => [base64Letter (a.toNat / 4), base64Letter (a.toNat % 4 * 16), '=', '=']
  | [a, b] =>
      [base64Letter (a.toNat / 4), base64Letter (a.toNat % 4 * 16 + b.toNat / 16),
        base64Letter (b.toNat % 16 * 4), '=']
  | a :: b :: c :: rest =>
      base64Letter (a.toNat / 4) :: base64Letter (a.toNat % 4 * 16 + b.toNat / 16) ::
        base64Letter (b.toNat % 16 * 4 + c.toNat / 64) :: base64Letter (c.toNat % 64) ::
          b64encode rest

def b64decode : List Char → Option Bytes
  | [] => some []
  | [p, q, '=', '='] => do
      let p ← base64Value p
      let q ← base64Value q
      some [UInt8.ofNat (p * 4 + q / 16)]
  | [p, q, r, '='] => do
      let p ← base64Value p
      let q ← base64Value q
      let r ← base64Value r
      some [UInt8.ofNat (p * 4 + q / 16), UInt8.ofNat (q % 16 * 16 + r / 4)]
  | p :: q :: r :: s :: rest => do
      let p ← base64Value p
      let q ← base64Value q
      let r ← base64Value r
      let s ← base64Value s
      let rest ← b64decode rest
      some (UInt8.ofNat (p * 4 + q / 16) :: UInt8.ofNat (q % 16 * 16 + r / 4) ::
        UInt8.ofNat (r % 4 * 64 + s) :: rest)
  | _ => none

theorem base64Value_letter {n : Nat} (bound : n < 64) :
    base64Value (base64Letter n) = some n := by
  have all : ∀ m < 64, base64Value (base64Letter m) = some m := by
    decide
  exact all n bound

theorem base64Letter_ne_pad {n : Nat} (bound : n < 64) : base64Letter n ≠ '=' := by
  have all : ∀ m < 64, base64Letter m ≠ '=' := by
    decide
  exact all n bound

theorem b64decode_b64encode (bytes : Bytes) : b64decode (b64encode bytes) = some bytes := by
  induction bytes using b64encode.induct with
  | case1 => rfl
  | case2 a =>
      have small := a.toNat_lt
      have first : a.toNat / 4 * 4 + a.toNat % 4 * 16 / 16 = a.toNat := by omega
      simp only [b64encode, b64decode, base64Value_letter (show a.toNat / 4 < 64 by omega),
        base64Value_letter (show a.toNat % 4 * 16 < 64 by omega), Option.bind_eq_bind,
        Option.bind_some, first, UInt8.ofNat_toNat]
  | case3 a b =>
      have smallA := a.toNat_lt
      have smallB := b.toNat_lt
      have notPad := base64Letter_ne_pad (show b.toNat % 16 * 4 < 64 by omega)
      have first : a.toNat / 4 * 4 + (a.toNat % 4 * 16 + b.toNat / 16) / 16 = a.toNat := by omega
      have second : (a.toNat % 4 * 16 + b.toNat / 16) % 16 * 16 + b.toNat % 16 * 4 / 4 =
          b.toNat := by
        omega
      rw [b64encode, b64decode]
      · simp only [base64Value_letter (show a.toNat / 4 < 64 by omega),
          base64Value_letter (show a.toNat % 4 * 16 + b.toNat / 16 < 64 by omega),
          base64Value_letter (show b.toNat % 16 * 4 < 64 by omega), Option.bind_eq_bind,
          Option.bind_some, first, second, UInt8.ofNat_toNat]
      · exact notPad
  | case4 a b c rest ih =>
      have smallA := a.toNat_lt
      have smallB := b.toNat_lt
      have smallC := c.toNat_lt
      have notPad := base64Letter_ne_pad (show c.toNat % 64 < 64 by omega)
      have first : a.toNat / 4 * 4 + (a.toNat % 4 * 16 + b.toNat / 16) / 16 = a.toNat := by omega
      have second : (a.toNat % 4 * 16 + b.toNat / 16) % 16 * 16 +
          (b.toNat % 16 * 4 + c.toNat / 64) / 4 = b.toNat := by
        omega
      have third : (b.toNat % 16 * 4 + c.toNat / 64) % 4 * 64 + c.toNat % 64 = c.toNat := by omega
      rw [b64encode, b64decode]
      · simp only [base64Value_letter (show a.toNat / 4 < 64 by omega),
          base64Value_letter (show a.toNat % 4 * 16 + b.toNat / 16 < 64 by omega),
          base64Value_letter (show b.toNat % 16 * 4 + c.toNat / 64 < 64 by omega),
          base64Value_letter (show c.toNat % 64 < 64 by omega), ih, Option.bind_eq_bind,
          Option.bind_some, first, second, third, UInt8.ofNat_toNat]
      · intro _ same _
        exact absurd same notPad
      · intro same _
        exact absurd same notPad

end FolioLattice.Data
