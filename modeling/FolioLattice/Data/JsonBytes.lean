/-
`json.loads` of bytes: the encoding that it finds, and the text in it, in which surrogates
may stand.
-/

import FolioLattice.Data.JsonNormal
import FolioLattice.Text.Utf8

namespace FolioLattice.Data

open FolioLattice.Text (Bytes leadInfo)

/-! ### Encodings -/

inductive Encoding where
  | utf8
  | utf8Sig
  | utf16 (bigEndian : Bool)
  | utf32 (bigEndian : Bool)
  deriving DecidableEq

/-- `json.detect_encoding`, with the byte order that a mark names and without the mark. -/
def detectEncoding (raw : Bytes) : Encoding × Bytes :=
  if raw.take 4 = [0x00, 0x00, 0xfe, 0xff] then (.utf32 true, raw.drop 4)
  else if raw.take 4 = [0xff, 0xfe, 0x00, 0x00] then (.utf32 false, raw.drop 4)
  else if raw.take 2 = [0xfe, 0xff] then (.utf16 true, raw.drop 2)
  else if raw.take 2 = [0xff, 0xfe] then (.utf16 false, raw.drop 2)
  else if raw.take 3 = [0xef, 0xbb, 0xbf] then (.utf8Sig, raw.drop 3)
  else
    match raw with
    | a :: b :: c :: d :: _ =>
        if a = 0 then (if b ≠ 0 then .utf16 true else .utf32 true, raw)
        else if b = 0 then (if c ≠ 0 ∨ d ≠ 0 then .utf16 false else .utf32 false, raw)
        else (.utf8, raw)
    | [a, b] =>
        if a = 0 then (.utf16 true, raw) else if b = 0 then (.utf16 false, raw) else (.utf8, raw)
    | _ => (.utf8, raw)

def byteValue (bigEndian : Bool) (bytes : Bytes) : Nat :=
  (if bigEndian then bytes else bytes.reverse).foldl (fun value b => value * 256 + b.toNat) 0

def utf16Units (bigEndian : Bool) : Bytes → Option PyStr
  | [] => some []
  | [_] => none
  | a :: b :: rest =>
      (utf16Units bigEndian rest).map
        (fun units => Fin.ofNat 0x110000 (byteValue bigEndian [a, b]) :: units)

def decodeUtf32 (bigEndian : Bool) : Bytes → Option PyStr
  | [] => some []
  | a :: b :: c :: d :: rest =>
      if byteValue bigEndian [a, b, c, d] < 0x110000 then
        (decodeUtf32 bigEndian rest).map
          (fun text => Fin.ofNat 0x110000 (byteValue bigEndian [a, b, c, d]) :: text)
      else none
  | _ => none

/-- The bytes that continue a character; `none` where they are malformed. -/
def continueUtf8 : (left low high bits : Nat) → Bytes → Option (Nat × Bytes)
  | 0, _, _, bits, rest => some (bits, rest)
  | _ + 1, _, _, _, [] => none
  | left + 1, low, high, bits, byte :: rest =>
      if low ≤ byte.toNat ∧ byte.toNat ≤ high then
        continueUtf8 left 0x80 0xbf (bits * 64 + (byte.toNat - 0x80)) rest
      else none

/-- One character, a surrogate among them. -/
def readUtf8 (lead : UInt8) (rest : Bytes) : Option (Nat × Bytes) :=
  if lead.toNat < 0x80 then some (lead.toNat, rest)
  else if lead = 0xed then continueUtf8 2 0x80 0xbf 0xd rest
  else
    match leadInfo lead.toNat with
    | none => none
    | some (left, low, high, bits) => continueUtf8 left low high bits rest

/-- Every character takes a byte at least, so the number of bytes is fuel enough. -/
def decodeUtf8Pass : Nat → Bytes → Option PyStr
  | _, [] => some []
  | 0, _ => none
  | fuel + 1, lead :: rest =>
      match readUtf8 lead rest with
      | none => none
      | some (value, rest) =>
          (decodeUtf8Pass fuel rest).map (fun text => Fin.ofNat 0x110000 value :: text)

/-- `raw.decode(detect_encoding(raw), "surrogatepass")` -/
def decodeDetected (raw : Bytes) : Option PyStr :=
  match detectEncoding raw with
  | (.utf8, bytes) => decodeUtf8Pass bytes.length bytes
  | (.utf8Sig, bytes) => decodeUtf8Pass bytes.length bytes
  | (.utf16 bigEndian, bytes) => (utf16Units bigEndian bytes).map joinPairs
  | (.utf32 bigEndian, bytes) => decodeUtf32 bigEndian bytes

/-! ### Reading -/

/-- What `json.loads` raises. -/
inductive LoadsFailure where
  /-- `UnicodeDecodeError` or `JSONDecodeError` -/
  | decode
  /-- `RecursionError`, or the `ValueError` of `int` on too many digits -/
  | other
  deriving DecidableEq

def LoadError.failure : LoadError → LoadsFailure
  | .decode => .decode
  | .digits => .other

/-- Where the interpreter's stack ends for `json.loads`, and what it makes of a text that
has surrogates. -/
structure JsonReader (F : Type) where
  overflows : PyStr → Bool
  surrogates : PyStr → Except LoadsFailure (Json F)

/-- `json.loads(raw)` -/
def JsonReader.loads {F : Type} [FloatFormat F] (reader : JsonReader F) (raw : Bytes) :
    Except LoadsFailure (Json F) :=
  match decodeDetected raw with
  | none => .error .decode
  | some text =>
      if reader.overflows text then .error .other
      else
        match charsOf text with
        | some chars => (Data.loads chars).mapError LoadError.failure
        | none => reader.surrogates text

end FolioLattice.Data
