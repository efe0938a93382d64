/-
Query strings and links: how `urllib.parse` reads and writes them and how `html.escape`
puts them into a page.
-/

import FolioLattice.External.CredentialScan

namespace FolioLattice.Server

open FolioLattice.Text FolioLattice.Data
open FolioLattice.External (hexByte unquoteToBytes)

/-! ### Reading -/

/-- `bytes.decode("ascii")`; ASCII text stands for its bytes here. -/
def decodeAscii (bytes : Bytes) : Option Bytes :=
  if bytes.all (fun b => b.toNat < 0x80) then some bytes else none

/-- `urllib.parse.unquote` of ASCII text. -/
def unquoteAscii (text : Bytes) : List Char := decodeUtf8 (unquoteToBytes text)

/-- `text.replace("+", " ")` -/
def plusToSpace (text : Bytes) : Bytes := text.map (fun b => if b = 0x2b then 0x20 else b)

/-- One field of `parse_qsl`, cut at its first `=`. -/
def queryField (keepBlankValues : Bool) (item : Bytes) : Option (List Char × List Char) :=
  let name := unquoteAscii (plusToSpace (item.takeWhile (fun b => b ≠ 0x3d)))
  match item.dropWhile (fun b => b ≠ 0x3d) with
  | [] => if keepBlankValues && !item.isEmpty then some (name, []) else none
  | _ :: value =>
      if keepBlankValues || !value.isEmpty then some (name, unquoteAscii (plusToSpace value))
      else none

/-- `parse_qsl` with the separator `&`. -/
def parseQsl (keepBlankValues : Bool) (query : Bytes) : List (List Char × List Char) :=
  (query.splitOn 0x26).filterMap (queryField keepBlankValues)

/-- `parse_qs(query).get(name)`, empty where there is none. -/
def queryValues (keepBlankValues : Bool) (name : List Char) (query : Bytes) : List (List Char) :=
  (parseQsl keepBlankValues query).filterMap
    (fun field => if field.1 = name then some field.2 else none)

/-! ### Writing -/

/-- A letter, a digit or one of `_.-~`. -/
def isUnreserved (b : UInt8) : Bool :=
  (0x30 ≤ b && b ≤ 0x39) || (0x41 ≤ b && b ≤ 0x5a) || (0x61 ≤ b && b ≤ 0x7a) ||
    b = 0x5f || b = 0x2e || b = 0x2d || b = 0x7e

def upperHex (n : Nat) : UInt8 := UInt8.ofNat (if n < 10 then 0x30 + n else 0x37 + n)

def quoteByte (b : UInt8) : Bytes :=
  if isUnreserved b then [b] else [0x25, upperHex (b.toNat / 16), upperHex (b.toNat % 16)]

/-- `urllib.parse.quote(text, safe="")` -/
def quote (text : List Char) : Bytes := (encodeUtf8 text).flatMap quoteByte

def asciiText (bytes : Bytes) : List Char := bytes.map (fun b => Char.ofNat b.toNat)

def doubleQuote : Char := Char.ofNat 0x22

def singleQuote : Char := Char.ofNat 0x27

def escapeChar (c : Char) : List Char :=
  if c = '&' then ['&', 'a', 'm', 'p', ';']
  else if c = '<' then ['&', 'l', 't', ';']
  else if c = '>' then ['&', 'g', 't', ';']
  else if c = doubleQuote then ['&', 'q', 'u', 'o', 't', ';']
  else if c = singleQuote then ['&', '#', 'x', '2', '7', ';']
  else [c]

/-- `html.escape(text, quote=True)` -/
def escape (text : List Char) : List Char := text.flatMap escapeChar

/-- What a browser reads for an attribute, as to the references that `escape` writes. -/
def attributeValue : List Char → List Char
  | '&' :: 'a' :: 'm' :: 'p' :: ';' :: rest => '&' :: attributeValue rest
  | '&' :: 'l' :: 't' :: ';' :: rest => '<' :: attributeValue rest
  | '&' :: 'g' :: 't' :: ';' :: rest => '>' :: attributeValue rest
  | '&' :: 'q' :: 'u' :: 'o' :: 't' :: ';' :: rest => doubleQuote :: attributeValue rest
  | '&' :: '#' :: 'x' :: '2' :: '7' :: ';' :: rest => singleQuote :: attributeValue rest
  | c :: rest => c :: attributeValue rest
  | [] => []

/-! ### A page gives back what is put into it -/

theorem attributeValue_cons {c : Char} (plain : c ≠ '&') (rest : List Char) :
    attributeValue (c :: rest) = c :: attributeValue rest := by
  rw [attributeValue.eq_def]
  split <;> simp_all

theorem attributeValue_escape (text : List Char) : attributeValue (escape text) = text := by
  induction text with
  | nil => rfl
  | cons c text ih =>
      have step : attributeValue (escapeChar c ++ escape text) = c :: attributeValue (escape text) := by
        unfold escapeChar
        split_ifs with amp lt gt double single
        · rw [amp]; rfl
        · rw [lt]; rfl
        · rw [gt]; rfl
        · rw [double]; rfl
        · rw [single]; rfl
        · exact attributeValue_cons amp _
      have whole : escape (c :: text) = escapeChar c ++ escape text := rfl
      rw [whole, step, ih]

/-! ### ASCII -/

theorem utf8EncodeChar_ascii {c : Char} (ascii : c.toNat < 0x80) :
    String.utf8EncodeChar c = [UInt8.ofNat c.toNat] := by
  have small : c.val.toNat ≤ 0x7f := Nat.le_of_lt_succ ascii
  unfold String.utf8EncodeChar
  simp only [if_pos small]
  rfl

theorem toNat_ofNat_ascii {n : Nat} (ascii : n < 0x80) : (UInt8.ofNat n).toNat = n := by
  rw [UInt8.toNat_ofNat']
  omega

theorem encodeUtf8_ascii {text : List Char} (ascii : ∀ c ∈ text, c.toNat < 0x80) :
    encodeUtf8 text = text.map (fun c => UInt8.ofNat c.toNat) := by
  induction text with
  | nil => rfl
  | cons c text ih =>
      have rest := ih (fun d member => ascii d (List.mem_cons_of_mem _ member))
      unfold encodeUtf8 at rest ⊢
      rw [List.flatMap_cons, utf8EncodeChar_ascii (ascii c List.mem_cons_self), rest]
      rfl

theorem asciiText_map {text : List Char} (ascii : ∀ c ∈ text, c.toNat < 0x80) :
    asciiText (text.map (fun c => UInt8.ofNat c.toNat)) = text := by
  unfold asciiText
  rw [List.map_map]
  refine (List.map_congr_left (fun c member => ?_)).trans (List.map_id _)
  rw [Function.comp_apply, toNat_ofNat_ascii (ascii c member), Char.ofNat_toNat, id]

theorem ofNat_toNat_ascii {b : UInt8} (ascii : b.toNat < 0x80) :
    (Char.ofNat b.toNat).toNat = b.toNat := by
  have valid : b.toNat.isValidChar := Or.inl (Nat.lt_trans ascii (by decide))
  unfold Char.ofNat
  rw [dif_pos valid]
  rfl

theorem encodeUtf8_asciiText {bytes : Bytes} (ascii : ∀ b ∈ bytes, b.toNat < 0x80) :
    encodeUtf8 (asciiText bytes) = bytes := by
  rw [encodeUtf8_ascii]
  · unfold asciiText
    rw [List.map_map]
    refine (List.map_congr_left (fun b member => ?_)).trans (List.map_id _)
    rw [Function.comp_apply, ofNat_toNat_ascii (ascii b member), UInt8.ofNat_toNat, id]
  · intro c member
    obtain ⟨b, inside, same⟩ := List.mem_map.mp member
    rw [← same, ofNat_toNat_ascii (ascii b inside)]
    exact ascii b inside

theorem decodeFrom_ascii {bytes : Bytes} (ascii : ∀ b ∈ bytes, b.toNat < 0x80) :
    decodeFrom bytes.length bytes = asciiText bytes := by
  induction bytes with
  | nil => rfl
  | cons b bytes ih =>
      have one : decodeOne b bytes = (Char.ofNat b.toNat, bytes) :=
        if_pos (ascii b List.mem_cons_self)
      have rest := ih (fun other member => ascii other (List.mem_cons_of_mem _ member))
      rw [List.length_cons, decodeFrom, one]
      dsimp only
      rw [rest]
      rfl

/-! ### What is quoted is read back -/

/-- The bytes of quoted text. -/
def isQuoted (b : UInt8) : Bool := isUnreserved b || b = 0x25

theorem quoteByte_quoted (b : UInt8) : (quoteByte b).all isQuoted = true := by
  have all : ∀ n < 256, (quoteByte (UInt8.ofNat n)).all isQuoted = true := by decide +kernel
  have here := all b.toNat b.toNat_lt
  rw [UInt8.ofNat_toNat] at here
  exact here

theorem quote_quoted (text : List Char) : ∀ b ∈ quote text, isQuoted b = true := by
  intro b member
  obtain ⟨original, _, inside⟩ := List.mem_flatMap.mp member
  exact List.all_eq_true.mp (quoteByte_quoted original) b inside

/-- Quoted text is ASCII and has none of the marks that a query is cut at. -/
theorem isQuoted_plain {b : UInt8} (quoted : isQuoted b = true) :
    b.toNat < 0x80 ∧ b ≠ 0x26 ∧ b ≠ 0x3d ∧ b ≠ 0x2b ∧ b ≠ 0x3f := by
  have all : ∀ n < 256, isQuoted (UInt8.ofNat n) = true → n < 0x80 ∧ UInt8.ofNat n ≠ 0x26 ∧
      UInt8.ofNat n ≠ 0x3d ∧ UInt8.ofNat n ≠ 0x2b ∧ UInt8.ofNat n ≠ 0x3f := by decide +kernel
  have here := all b.toNat b.toNat_lt
  rw [UInt8.ofNat_toNat] at here
  exact here quoted

theorem unquoteToBytes_cons {b : UInt8} (plain : b ≠ 0x25) (rest : Bytes) :
    unquoteToBytes (b :: rest) = b :: unquoteToBytes rest := by
  match rest with
  | [] => rfl
  | [low] => rfl
  | high :: low :: rest => rw [unquoteToBytes, if_neg plain]

theorem unquoteToBytes_quoteByte (b : UInt8) (rest : Bytes) :
    unquoteToBytes (quoteByte b ++ rest) = b :: unquoteToBytes rest := by
  have all : ∀ n < 256, isUnreserved (UInt8.ofNat n) = true → UInt8.ofNat n ≠ 0x25 := by
    decide +kernel
  have digits : ∀ n < 256, hexByte (upperHex (n / 16)) (upperHex (n % 16)) =
      some (UInt8.ofNat n) := by decide +kernel
  have plain := all b.toNat b.toNat_lt
  have pair := digits b.toNat b.toNat_lt
  rw [UInt8.ofNat_toNat] at plain pair
  unfold quoteByte
  by_cases unreserved : isUnreserved b = true
  · rw [if_pos unreserved]
    exact unquoteToBytes_cons (plain unreserved) rest
  · rw [if_neg unreserved]
    change unquoteToBytes (0x25 :: _ :: _ :: rest) = _
    rw [unquoteToBytes, if_pos rfl, pair]

theorem unquoteToBytes_quote (text : List Char) : unquoteToBytes (quote text) = encodeUtf8 text := by
  unfold quote
  induction encodeUtf8 text with
  | nil => rfl
  | cons b bytes ih => rw [List.flatMap_cons, unquoteToBytes_quoteByte, ih]

theorem plusToSpace_quoted {text : Bytes} (quoted : ∀ b ∈ text, isQuoted b = true) :
    plusToSpace text = text := by
  unfold plusToSpace
  refine (List.map_congr_left (fun b member => ?_)).trans (List.map_id _)
  exact if_neg (isQuoted_plain (quoted b member)).2.2.2.1

end FolioLattice.Server
