/-
JSON values, the text Python's `json.dumps` prints for them with compact
separators and ASCII escapes, and the reader `json.loads`.
-/

import Mathlib.Data.List.Sort
import Mathlib.Data.List.Lex
import Mathlib.Order.Fin.Basic

namespace FolioLattice.Data

/-! ### Values -/

/-- A Python string holds code points; a surrogate may stand alone in it. -/
abbrev CodePoint := Fin 0x110000

abbrev PyStr := List CodePoint

instance CodePoint.decidableMem (c : CodePoint) (text : PyStr) : Decidable (c ∈ text) :=
  List.instDecidableMemOfLawfulBEq c text

instance PyStr.decidableMem (text : PyStr) (texts : List PyStr) : Decidable (text ∈ texts) :=
  List.instDecidableMemOfLawfulBEq text texts

instance codePoint_neZero : @NeZero ℕ Zero.ofOfNat0 0x110000 := ⟨Nat.succ_ne_zero 0x10ffff⟩

def codePoint (c : Char) : CodePoint := Fin.ofNat 0x110000 c.toNat

def pyStr (text : String) : PyStr := text.toList.map codePoint

inductive FloatValue (F : Type) where
  | finite (value : F)
  | infinity (negative : Bool)
  | nan

inductive Json (F : Type) where
  | null
  | bool (value : Bool)
  | int (value : Int)
  | float (value : FloatValue F)
  | str (value : PyStr)
  | arr (items : List (Json F))
  | obj (entries : List (PyStr × Json F))

/-! ### Number tokens -/

/-- `0|[1-9][0-9]*` -/
def scanWhole : List Char → Option (List Char × List Char)
  | [] => none
  | c :: rest =>
      if c = '0' then some (['0'], rest)
      else if c.isDigit then some (c :: rest.takeWhile Char.isDigit, rest.dropWhile Char.isDigit)
      else none

/-- `(\.[0-9]+)?` -/
def scanFraction (text : List Char) : List Char × List Char :=
  match text with
  | '.' :: rest =>
      if (rest.takeWhile Char.isDigit).isEmpty then ([], text)
      else ('.' :: rest.takeWhile Char.isDigit, rest.dropWhile Char.isDigit)
  | _ => ([], text)

def splitSign : List Char → List Char × List Char
  | '+' :: rest => (['+'], rest)
  | '-' :: rest => (['-'], rest)
  | text => ([], text)

/-- `([eE][-+]?[0-9]+)?` -/
def scanExponent (text : List Char) : List Char × List Char :=
  match text with
  | [] => ([], [])
  | mark :: rest =>
      let (sign, body) := splitSign rest
      if (mark = 'e' ∨ mark = 'E') ∧ ¬(body.takeWhile Char.isDigit).isEmpty then
        (mark :: sign ++ body.takeWhile Char.isDigit, body.dropWhile Char.isDigit)
      else ([], text)

structure NumberToken where
  negative : Bool
  whole : List Char
  fraction : List Char
  exponent : List Char

def NumberToken.text (token : NumberToken) : List Char :=
  (if token.negative then ['-'] else []) ++ token.whole ++ token.fraction ++ token.exponent

def scanNumber (text : List Char) : Option (NumberToken × List Char) :=
  let negative := text.head? == some '-'
  match scanWhole (if negative then text.tail else text) with
  | none => none
  | some (whole, rest) =>
      let (fraction, rest) := scanFraction rest
      let (exponent, rest) := scanExponent rest
      some (⟨negative, whole, fraction, exponent⟩, rest)

def NumberToken.isFloat (token : NumberToken) : Bool :=
  !(token.fraction.isEmpty && token.exponent.isEmpty)

/-- The floating-point format, through its printer and reader.  The reader
takes any number token; the printer's text is a float token and reads back. -/
class FloatFormat (F : Type) where
  repr : F → List Char
  parse : List Char → FloatValue F
  isZero : F → Bool
  /-- `abs(value) > bound` -/
  exceeds : F → Nat → Bool
  /-- `==` between numbers, the booleans among them -/
  sameNumber : Json F → Json F → Bool
  /-- `sorted` on the items of a `dict` whose keys are numbers -/
  sortNumbers : List (Json F × Json F) → List (Json F × Json F)
  repr_scan : ∀ x, ∃ token, token.isFloat = true ∧ token.text = repr x ∧
    scanNumber (repr x) = some (token, [])
  parse_repr : ∀ x, parse (repr x) = .finite x
  repr_length : ∀ x, (repr x).length ≤ 24

/-- The integer that a boolean or an integer is. -/
def Json.integer {F : Type} : Json F → Int
  | .bool value => if value then 1 else 0
  | .int value => value
  | _ => 0

/-- A format without finite numbers, for data that has none. -/
instance : FloatFormat Empty where
  repr x := nomatch x
  parse _ := .nan
  isZero x := nomatch x
  exceeds x := nomatch x
  sameNumber x y := x.integer = y.integer
  sortNumbers entries := entries.insertionSort (fun a b => a.1.integer ≤ b.1.integer)
  repr_scan x := nomatch x
  parse_repr x := nomatch x
  repr_length x := nomatch x

/-! ### Printing -/

def isHigh (unit : CodePoint) : Bool := 0xd800 ≤ unit.val && unit.val ≤ 0xdbff

def isLow (unit : CodePoint) : Bool := 0xdc00 ≤ unit.val && unit.val ≤ 0xdfff

def escapeUnit (unit : Nat) : List Char :=
  ['\\', 'u', Nat.digitChar (unit / 4096 % 16), Nat.digitChar (unit / 256 % 16),
    Nat.digitChar (unit / 16 % 16), Nat.digitChar (unit % 16)]

/-- The one-letter escapes `dumps` uses. -/
def shortEscape (c : Nat) : Option Char :=
  if c = 0x22 then some '"'
  else if c = 0x5c then some '\\'
  else if c = 0x08 then some 'b'
  else if c = 0x0c then some 'f'
  else if c = 0x0a then some 'n'
  else if c = 0x0d then some 'r'
  else if c = 0x09 then some 't'
  else none

def escapeChar (c : CodePoint) : List Char :=
  match shortEscape c.val with
  | some letter => ['\\', letter]
  | none =>
      if 0x20 ≤ c.val ∧ c.val ≤ 0x7e then [Char.ofNat c.val]
      else if c.val < 0x10000 then escapeUnit c.val
      else
        escapeUnit (0xd800 + (c.val - 0x10000) / 0x400) ++
          escapeUnit (0xdc00 + (c.val - 0x10000) % 0x400)

def printString (text : PyStr) : List Char := '"' :: text.flatMap escapeChar ++ ['"']

def printInt (value : Int) : List Char :=
  (if value < 0 then ['-'] else []) ++ Nat.toDigits 10 value.natAbs

def printFloat {F : Type} [FloatFormat F] : FloatValue F → List Char
  | .finite value => FloatFormat.repr value
  | .infinity negative => (if negative then ['-'] else []) ++ "Infinity".toList
  | .nan => "NaN".toList

mutual
def Json.print {F : Type} [FloatFormat F] : Json F → List Char
  | .null => "null".toList
  | .bool value => if value then "true".toList else "false".toList
  | .int value => printInt value
  | .float value => printFloat value
  | .str value => printString value
  | .arr items => '[' :: printItems items ++ [']']
  | .obj entries => '{' :: printEntries entries ++ ['}']

def printItems {F : Type} [FloatFormat F] : List (Json F) → List Char
  | [] => []
  | item :: rest => item.print ++ printMoreItems rest

def printMoreItems {F : Type} [FloatFormat F] : List (Json F) → List Char
  | [] => []
  | item :: rest => ',' :: item.print ++ printMoreItems rest

def printEntries {F : Type} [FloatFormat F] : List (PyStr × Json F) → List Char
  | [] => []
  | (key, value) :: rest => printString key ++ ':' :: value.print ++ printMoreEntries rest

def printMoreEntries {F : Type} [FloatFormat F] : List (PyStr × Json F) → List Char
  | [] => []
  | (key, value) :: rest =>
      ',' :: printString key ++ ':' :: value.print ++ printMoreEntries rest
end

/-- `sorted` by key. -/
def sortByKey {V : Type} (entries : List (PyStr × V)) : List (PyStr × V) :=
  entries.insertionSort (fun a b => a.1 ≤ b.1)

mutual
def Json.sortKeys {F : Type} : Json F → Json F
  | .arr items => .arr (sortItems items)
  | .obj entries => .obj (sortByKey (sortEntries entries))
  | .null => .null
  | .bool value => .bool value
  | .int value => .int value
  | .float value => .float value
  | .str value => .str value

def sortItems {F : Type} : List (Json F) → List (Json F)
  | [] => []
  | item :: rest => item.sortKeys :: sortItems rest

def sortEntries {F : Type} : List (PyStr × Json F) → List (PyStr × Json F)
  | [] => []
  | (key, value) :: rest => (key, value.sortKeys) :: sortEntries rest
end

/-- `sys.get_int_max_str_digits()`. -/
def maxIntDigits : Nat := 4300

def intEncodable (value : Int) : Bool := (Nat.toDigits 10 value.natAbs).length ≤ maxIntDigits

mutual
/-- What `dumps` prints without a `ValueError`. -/
def Json.encodable {F : Type} (allowNan : Bool) : Json F → Bool
  | .null => true
  | .bool _ => true
  | .int value => intEncodable value
  | .float (.finite _) => true
  | .float _ => allowNan
  | .str _ => true
  | .arr items => encodableItems allowNan items
  | .obj entries => encodableEntries allowNan entries

def encodableItems {F : Type} (allowNan : Bool) : List (Json F) → Bool
  | [] => true
  | item :: rest => item.encodable allowNan && encodableItems allowNan rest

def encodableEntries {F : Type} (allowNan : Bool) : List (PyStr × Json F) → Bool
  | [] => true
  | (_, value) :: rest => value.encodable allowNan && encodableEntries allowNan rest
end

/-- `json.dumps(value, sort_keys=True, separators=(",", ":"))`; `none` is its
`ValueError`. -/
def dumps {F : Type} [FloatFormat F] (allowNan : Bool) (value : Json F) : Option (List Char) :=
  if value.encodable allowNan then some value.sortKeys.print else none

/-! ### Reading -/

inductive LoadError where
  /-- `JSONDecodeError` -/
  | decode
  /-- the `ValueError` of `int` on too many digits -/
  | digits
  deriving DecidableEq, Repr

def hexValue (c : Char) : Option Nat :=
  if '0' ≤ c ∧ c ≤ '9' then some (c.toNat - '0'.toNat)
  else if 'a' ≤ c ∧ c ≤ 'f' then some (c.toNat - 'a'.toNat + 10)
  else if 'A' ≤ c ∧ c ≤ 'F' then some (c.toNat - 'A'.toNat + 10)
  else none

def hexUnit (a b c d : Char) : Option CodePoint := do
  let a ← hexValue a
  let b ← hexValue b
  let c ← hexValue c
  let d ← hexValue d
  some (Fin.ofNat 0x110000 (a * 4096 + b * 256 + c * 16 + d))

def unescape : Char → Option CodePoint
  | '"' => some 0x22
  | '\\' => some 0x5c
  | '/' => some 0x2f
  | 'b' => some 0x08
  | 'f' => some 0x0c
  | 'n' => some 0x0a
  | 'r' => some 0x0d
  | 't' => some 0x09
  | _ => none

/-- The units of a string up to its closing quote, surrogate pairs unjoined. -/
def scanUnits : List Char → Except LoadError (PyStr × List Char)
  | [] => .error .decode
  | '"' :: rest => .ok ([], rest)
  | '\\' :: 'u' :: a :: b :: c :: d :: rest =>
      match hexUnit a b c d with
      | none => .error .decode
      | some unit => (scanUnits rest).map (fun p => (unit :: p.1, p.2))
  | '\\' :: letter :: rest =>
      match unescape letter with
      | none => .error .decode
      | some unit => (scanUnits rest).map (fun p => (unit :: p.1, p.2))
  | c :: rest =>
      if c = '\\' ∨ c.toNat < 0x20 then .error .decode
      else (scanUnits rest).map (fun p => (codePoint c :: p.1, p.2))

def joinPair (high low : CodePoint) : CodePoint :=
  Fin.ofNat 0x110000 (0x10000 + (high.val - 0xd800) * 0x400 + (low.val - 0xdc00))

/-- A high unit followed by a low one reads as one code point. -/
def joinPairs : PyStr → PyStr
  | [] => []
  | [unit] => [unit]
  | high :: low :: rest =>
      if isHigh high && isLow low then joinPair high low :: joinPairs rest
      else high :: joinPairs (low :: rest)

def scanString (text : List Char) : Except LoadError (PyStr × List Char) :=
  (scanUnits text).map (fun p => (joinPairs p.1, p.2))

def isJsonSpace (c : Char) : Bool := c == ' ' || c == '\t' || c == '\n' || c == '\r'

def skipSpace (text : List Char) : List Char := text.dropWhile isJsonSpace

def parseNumber {F : Type} [FloatFormat F] (text : List Char) :
    Except LoadError (Json F × List Char) :=
  match scanNumber text with
  | none => .error .decode
  | some (token, rest) =>
      if token.isFloat then .ok (.float (FloatFormat.parse token.text), rest)
      else if maxIntDigits < token.whole.length then .error .digits
      else
        let size : Int := Nat.ofDigitChars 10 token.whole 0
        .ok (.int (if token.negative then -size else size), rest)

/-- The named constants, `NaN` and the infinities included. -/
def parseConstant {F : Type} (text : List Char) : Option (Json F × List Char) :=
  if text.take 4 = "null".toList then some (.null, text.drop 4)
  else if text.take 4 = "true".toList then some (.bool true, text.drop 4)
  else if text.take 5 = "false".toList then some (.bool false, text.drop 5)
  else if text.take 3 = "NaN".toList then some (.float .nan, text.drop 3)
  else if text.take 8 = "Infinity".toList then some (.float (.infinity false), text.drop 8)
  else if text.take 9 = "-Infinity".toList then some (.float (.infinity true), text.drop 9)
  else none

/-- `dict` assignment: a known key keeps its place. -/
def setEntry {V : Type} (key : PyStr) (value : V) : List (PyStr × V) → List (PyStr × V)
  | [] => [(key, value)]
  | (known, old) :: rest =>
      if known = key then (key, value) :: rest else (known, old) :: setEntry key value rest

def dictOf {V : Type} (pairs : List (PyStr × V)) : List (PyStr × V) :=
  pairs.foldl (fun entries pair => setEntry pair.1 pair.2 entries) []

-- The recursion is on the fuel: every step reads a character or goes down from
-- a list to its next element, so twice the length of the text is enough.
mutual
def parseValue {F : Type} [FloatFormat F] :
    Nat → List Char → Except LoadError (Json F × List Char)
  | 0, _ => .error .decode
  | fuel + 1, text =>
      match text with
      | '"' :: rest => (scanString rest).map (fun p => (.str p.1, p.2))
      | '[' :: rest =>
          match skipSpace rest with
          | ']' :: rest => .ok (.arr [], rest)
          | rest => (parseItems fuel rest).map (fun p => (.arr p.1, p.2))
      | '{' :: rest =>
          match skipSpace rest with
          | '}' :: rest => .ok (.obj [], rest)
          | rest => (parseEntries fuel rest).map (fun p => (.obj (dictOf p.1), p.2))
      | text =>
          match parseConstant text with
          | some result => .ok result
          | none => parseNumber text

def parseItems {F : Type} [FloatFormat F] :
    Nat → List Char → Except LoadError (List (Json F) × List Char)
  | 0, _ => .error .decode
  | fuel + 1, text =>
      match parseValue fuel text with
      | .error e => .error e
      | .ok (item, rest) =>
          match skipSpace rest with
          | ']' :: rest => .ok ([item], rest)
          | ',' :: rest => (parseItems fuel (skipSpace rest)).map (fun p => (item :: p.1, p.2))
          | _ => .error .decode

def parseEntries {F : Type} [FloatFormat F] :
    Nat → List Char → Except LoadError (List (PyStr × Json F) × List Char)
  | 0, _ => .error .decode
  | fuel + 1, '"' :: text =>
      match scanString text with
      | .error e => .error e
      | .ok (key, rest) =>
          match skipSpace rest with
          | ':' :: rest =>
              match parseValue fuel (skipSpace rest) with
              | .error e => .error e
              | .ok (value, rest) =>
                  match skipSpace rest with
                  | '}' :: rest => .ok ([(key, value)], rest)
                  | ',' :: rest =>
                      (parseEntries fuel (skipSpace rest)).map
                        (fun p => ((key, value) :: p.1, p.2))
                  | _ => .error .decode
          | _ => .error .decode
  | _ + 1, _ => .error .decode
end

/-- `json.loads`. -/
def loads {F : Type} [FloatFormat F] (text : List Char) : Except LoadError (Json F) :=
  match parseValue (2 * text.length + 2) (skipSpace text) with
  | .error e => .error e
  | .ok (value, rest) => if (skipSpace rest).isEmpty then .ok value else .error .decode

/-! ### Python's reading of a value -/

/-- Python's `bool(value)`. -/
def Json.truthy {F : Type} [FloatFormat F] : Json F → Bool
  | .null => false
  | .bool value => value
  | .int value => value ≠ 0
  | .float (.finite value) => !FloatFormat.isZero value
  | .float _ => true
  | .str value => !value.isEmpty
  | .arr items => !items.isEmpty
  | .obj entries => !entries.isEmpty

/-- `dict.get`. -/
def lookup {V : Type} (key : PyStr) (entries : List (PyStr × V)) : Option V :=
  (entries.find? (fun entry => entry.1 = key)).map (·.2)

end FolioLattice.Data
