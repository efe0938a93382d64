/-
SHA-256.
-/

import FolioLattice.Text.Utf8

namespace FolioLattice.Data

open FolioLattice.Text (Bytes)

/-! ### Words -/

def wordModulus : Nat := 0x100000000

def rotateRight (count word : Nat) : Nat := (word >>> count ||| word <<< (32 - count)) % wordModulus

def roundConstants : List Nat :=
  [0x428a2f98, 0x71374491, 0xb5c0fbcf, 0xe9b5dba5, 0x3956c25b, 0x59f111f1, 0x923f82a4, 0xab1c5ed5,
    0xd807aa98, 0x12835b01, 0x243185be, 0x550c7dc3, 0x72be5d74, 0x80deb1fe, 0x9bdc06a7, 0xc19bf174,
    0xe49b69c1, 0xefbe4786, 0x0fc19dc6, 0x240ca1cc, 0x2de92c6f, 0x4a7484aa, 0x5cb0a9dc, 0x76f988da,
    0x983e5152, 0xa831c66d, 0xb00327c8, 0xbf597fc7, 0xc6e00bf3, 0xd5a79147, 0x06ca6351, 0x14292967,
    0x27b70a85, 0x2e1b2138, 0x4d2c6dfc, 0x53380d13, 0x650a7354, 0x766a0abb, 0x81c2c92e, 0x92722c85,
    0xa2bfe8a1, 0xa81a664b, 0xc24b8b70, 0xc76c51a3, 0xd192e819, 0xd6990624, 0xf40e3585, 0x106aa070,
    0x19a4c116, 0x1e376c08, 0x2748774c, 0x34b0bcb5, 0x391c0cb3, 0x4ed8aa4a, 0x5b9cca4f, 0x682e6ff3,
    0x748f82ee, 0x78a5636f, 0x84c87814, 0x8cc70208, 0x90befffa, 0xa4506ceb, 0xbef9a3f7, 0xc67178f2]

/-- The eight working words. -/
structure HashState where
  a : Nat
  b : Nat
  c : Nat
  d : Nat
  e : Nat
  f : Nat
  g : Nat
  h : Nat

def initialHash : HashState :=
  ⟨0x6a09e667, 0xbb67ae85, 0x3c6ef372, 0xa54ff53a, 0x510e527f, 0x9b05688c, 0x1f83d9ab, 0x5be0cd19⟩

/-! ### Blocks -/

/-- The message schedule, its newest word first. -/
def extendSchedule : Nat → List Nat → List Nat
  | 0, words => words
  | count + 1, words =>
      let word (back : Nat) := (words[back - 1]?).getD 0
      let small0 := rotateRight 7 (word 15) ^^^ rotateRight 18 (word 15) ^^^ word 15 >>> 3
      let small1 := rotateRight 17 (word 2) ^^^ rotateRight 19 (word 2) ^^^ word 2 >>> 10
      extendSchedule count ((word 16 + small0 + word 7 + small1) % wordModulus :: words)

def hashRound (state : HashState) (input : Nat × Nat) : HashState :=
  let big1 := rotateRight 6 state.e ^^^ rotateRight 11 state.e ^^^ rotateRight 25 state.e
  let choice := state.e &&& state.f ^^^ (wordModulus - 1 - state.e) &&& state.g
  let first := (state.h + big1 + choice + input.1 + input.2) % wordModulus
  let big0 := rotateRight 2 state.a ^^^ rotateRight 13 state.a ^^^ rotateRight 22 state.a
  let majority := state.a &&& state.b ^^^ state.a &&& state.c ^^^ state.b &&& state.c
  let second := (big0 + majority) % wordModulus
  ⟨(first + second) % wordModulus, state.a, state.b, state.c, (state.d + first) % wordModulus, state.e,
    state.f, state.g⟩

def HashState.add (s t : HashState) : HashState :=
  let plus (x y : Nat) := (x + y) % wordModulus
  ⟨plus s.a t.a, plus s.b t.b, plus s.c t.c, plus s.d t.d, plus s.e t.e, plus s.f t.f,
    plus s.g t.g, plus s.h t.h⟩

def compress (state : HashState) (block : List Nat) : HashState :=
  let schedule := (extendSchedule 48 block.reverse).reverse
  state.add ((roundConstants.zip schedule).foldl hashRound state)

/-! ### The message -/

/-- The lowest `count` bytes of a number, the highest first. -/
def bigEndian : Nat → Nat → List Nat
  | 0, _ => []
  | count + 1, n => bigEndian count (n / 256) ++ [n % 256]

def padMessage (data : Bytes) : List Nat :=
  data.map UInt8.toNat ++ 0x80 :: List.replicate ((119 - data.length % 64) % 64) 0 ++
    bigEndian 8 (data.length * 8)

def toWords : List Nat → List Nat
  | a :: b :: c :: d :: rest => (((a * 256 + b) * 256 + c) * 256 + d) :: toWords rest
  | _ => []

/-- As many blocks as the fuel allows; a block has 16 words. -/
def hashBlocks : Nat → HashState → List Nat → HashState
  | 0, state, _ => state
  | fuel + 1, state, words =>
      if words.isEmpty then state
      else hashBlocks fuel (compress state (words.take 16)) (words.drop 16)

/-! ### The digest -/

def hexWord (word : Nat) : List Char :=
  [28, 24, 20, 16, 12, 8, 4, 0].map (fun shift => Nat.digitChar (word >>> shift % 16))

/-- `hashlib.sha256(data).hexdigest()` as characters. -/
def sha256Hex (data : Bytes) : List Char :=
  let state := hashBlocks (data.length / 64 + 2) initialHash (toWords (padMessage data))
  [state.a, state.b, state.c, state.d, state.e, state.f, state.g, state.h].flatMap hexWord

theorem sha256Hex_length (data : Bytes) : (sha256Hex data).length = 64 := rfl

theorem hexDigit_range {n : Nat} (bound : n < 16) :
    ('0' ≤ Nat.digitChar n ∧ Nat.digitChar n ≤ '9') ∨
      ('a' ≤ Nat.digitChar n ∧ Nat.digitChar n ≤ 'f') := by
  have all : ∀ m < 16, ('0' ≤ Nat.digitChar m ∧ Nat.digitChar m ≤ '9') ∨
      ('a' ≤ Nat.digitChar m ∧ Nat.digitChar m ≤ 'f') := by
    decide
  exact all n bound

theorem sha256Hex_isHex (data : Bytes) : ∀ c ∈ sha256Hex data,
    ('0' ≤ c ∧ c ≤ '9') ∨ ('a' ≤ c ∧ c ≤ 'f') := by
  intro c member
  obtain ⟨word, _, inWord⟩ := List.mem_flatMap.mp member
  obtain ⟨shift, _, same⟩ := List.mem_map.mp inWord
  rw [← same]
  exact hexDigit_range (Nat.mod_lt _ (by decide))

end FolioLattice.Data
