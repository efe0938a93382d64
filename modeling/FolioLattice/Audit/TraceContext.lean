/-
The trace-context migration: every audit row of an earlier release gets its trace
and span ids and a new hash.
-/

import FolioLattice.Audit.Event

namespace FolioLattice.Audit

open FolioLattice.Text FolioLattice.Data FolioLattice.Store

section Migration

variable {F : Type} [FloatFormat F]

/-! ### `dict` of a parsed value -/

def isText : Json F → Bool
  | .str _ => true
  | _ => false

def isNumber : Json F → Bool
  | .bool _ => true
  | .int _ => true
  | .float _ => true
  | _ => false

def hashable : Json F → Bool
  | .arr _ => false
  | .obj _ => false
  | _ => true

/-- `==` on keys. -/
def sameKey : Json F → Json F → Bool
  | .str known, .str key => known = key
  | .null, .null => true
  | known, key => isNumber known && isNumber key && FloatFormat.sameNumber known key

/-- A `dict` with keys of any kind, in the order of insertion. -/
abbrev Mapping (F : Type) := List (Json F × Json F)

def setKey (key value : Json F) : Mapping F → Mapping F
  | [] => [(key, value)]
  | (known, old) :: rest =>
      if sameKey known key then (known, value) :: rest else (known, old) :: setKey key value rest

/-- The two elements of an item: of a list, of a text, or the keys of an object. -/
def pairOf : Json F → Option (Json F × Json F)
  | .arr [key, value] => some (key, value)
  | .str [key, value] => some (.str [key], .str [value])
  | .obj [(key, _), (value, _)] => some (.str key, .str value)
  | _ => none

def mappingOf (pairs : List (Json F × Json F)) : Mapping F :=
  pairs.foldl (fun mapping pair => setKey pair.1 pair.2 mapping) []

/-- `dict(value)`; `none` where it raises. -/
def toMapping : Json F → Option (Mapping F)
  | .obj entries => some (entries.map (fun e => (.str e.1, e.2)))
  | .arr items => do
      let pairs ← items.mapM pairOf
      if pairs.all (fun pair => hashable pair.1) then some (mappingOf pairs) else none
  | .str [] => some []
  | _ => none

/-- The text that `dumps` prints a key as. -/
def keyText : Json F → PyStr
  | .str text => text
  | key => key.print.map codePoint

def Mapping.texts (mapping : Mapping F) : List (PyStr × Json F) :=
  mapping.map (fun e => (keyText e.1, e.2))

def Mapping.numbered (mapping : Mapping F) : Bool :=
  !mapping.isEmpty && mapping.all (fun e => isNumber e.1)

/-- The object as `dumps` orders it: by the keys themselves, before they are
printed as texts; `none` is the `TypeError` of keys that cannot be compared. -/
def Mapping.ordered (mapping : Mapping F) : Option (Json F) :=
  if mapping.all (fun e => isText e.1) then some (Json.obj mapping.texts).sortKeys
  else if mapping.numbered then
    some (.obj (sortEntries (Mapping.texts (FloatFormat.sortNumbers mapping))))
  else if mapping.length ≤ 1 then some (Json.obj mapping.texts).sortKeys
  else none

/-! ### Identifiers -/

def isIdentifier (length : Nat) (value : String) : Bool :=
  value.length = length && value.toList.all isHexDigit

/-- The text of code points that are characters. -/
def PyStr.toString? (text : PyStr) : Option String :=
  let chars := text.map (fun c => Char.ofNat c.val)
  if chars.map codePoint = text then some (String.ofList chars) else none

def Mapping.get (key : String) (mapping : Mapping F) : Option (Json F) :=
  (mapping.find? (fun e => sameKey e.1 (text key))).map (·.2)

def Mapping.pop (key : String) (mapping : Mapping F) : Mapping F :=
  mapping.filter (fun e => !sameKey e.1 (text key))

/-- `valid_identifier(details.pop(key, None), length)`: what it finds. -/
def Mapping.identifier (length : Nat) (key : String) (mapping : Mapping F) : Option String :=
  match mapping.get key with
  | some (.str value) => (PyStr.toString? value).filter (isIdentifier length)
  | _ => none

/-- `valid_identifier(event.get(key), …) or valid_identifier(details.pop(key, None), …) or legacy`:
the identifier and the details left. -/
def migrateIdentifier (length : Nat) (key stored legacy : String) (mapping : Mapping F) :
    String × Mapping F :=
  if isIdentifier length stored then (stored, mapping)
  else ((mapping.identifier length key).getD legacy, mapping.pop key)

/-! ### Rows -/

/-- The event's details without what became its trace and span id. -/
def migrateIdentifiers (settings : Settings) (row : AuditEventRow) (mapping : Mapping F) :
    String × String × Mapping F :=
  let (traceId, mapping) := migrateIdentifier 32 "trace_id" row.traceId
    (legacyTraceId settings row.id) mapping
  let (spanId, mapping) := migrateIdentifier 16 "span_id" row.spanId
    (legacySpanId settings row.id) mapping
  (traceId, spanId, mapping)

/-- The event the migration hashes, its details as `dumps` orders them. -/
def migratedEvent (F : Type) [FloatFormat F] (settings : Settings) (row : AuditEventRow) :
    Except Failure (AuditEvent F) := do
  let event : AuditEvent F ← auditRow row
  match toMapping event.details with
  | none => .error .builtin
  | some mapping =>
      let (traceId, spanId, mapping) := migrateIdentifiers settings row mapping
      match mapping.ordered with
      | none => .error .builtin
      | some details =>
          .ok { event with traceId := traceId, spanId := spanId, details := details }

/-- The record as it is printed: its own keys sorted, the details as they stand. -/
def AuditEvent.orderedText (event : AuditEvent F) : List Char :=
  match event.toJson with
  | .obj entries => (Json.obj (sortByKey entries)).print
  | value => value.print

def orderedHash (settings : Settings) (event : AuditEvent F) : String :=
  (settings.sha256 (asciiBytes event.orderedText)).hex

/-- One row of `_migrate_audit_trace_context`. -/
def migrateRow (F : Type) [FloatFormat F] (settings : Settings) (row : AuditEventRow) :
    Except Failure AuditEventRow := do
  let event ← migratedEvent F settings row
  if event.details.encodable true then
    .ok { row with
      detailsJson := String.ofList event.details.print
      traceId := event.traceId
      spanId := event.spanId
      integrityHash := orderedHash settings event }
  else .error (.json .digits)

end Migration

end FolioLattice.Audit
