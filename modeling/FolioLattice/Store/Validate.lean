/-
Input checks, the text of a version and its chunks.
-/

import FolioLattice.Store.Schema

namespace FolioLattice.Store

open FolioLattice.Text FolioLattice.Data

def maxNameLength : Nat := 255
def maxMediaTypeLength : Nat := 255
def maxReasonLength : Nat := 2000
def maxContextBytes : Nat := 32 * 1024
def maxQueryLength : Nat := 500
def maxEdgeTypeLength : Nat := 100

/-! ### Text fields -/

/-- `not value or not value.strip()` -/
def isBlank (value : String) : Bool := (strip value.toList).isEmpty

def validateText (field value : String) (maximum : Nat) : Except Failure Unit :=
  if isBlank value then .error (.folio (field ++ " must not be empty"))
  else if maximum < value.length then
    .error (.folio (field ++ " exceeds " ++ toString maximum ++ " characters"))
  else .ok ()

/-- The texts `validateText` accepts. -/
def ValidText (value : String) (maximum : Nat) : Prop :=
  isBlank value = false ∧ value.length ≤ maximum

instance (value : String) (maximum : Nat) : Decidable (ValidText value maximum) :=
  inferInstanceAs (Decidable (_ ∧ _))

theorem validateText_ok_iff {field value : String} {maximum : Nat} :
    validateText field value maximum = .ok () ↔ ValidText value maximum := by
  unfold validateText ValidText
  split
  · rename_i blank
    simp [blank]
  · rename_i notBlank
    rw [Bool.not_eq_true] at notBlank
    split
    · rename_i long
      constructor
      · intro impossible
        cases impossible
      · intro valid
        exact absurd valid.2 (by omega)
    · rename_i short
      constructor
      · intro _
        exact ⟨notBlank, by omega⟩
      · intro _
        rfl

theorem validateText_of_valid {value : String} {maximum : Nat} (valid : ValidText value maximum)
    (field : String) : validateText field value maximum = .ok () :=
  validateText_ok_iff.mpr valid

/-- A refusal names the field. -/
theorem validateText_error {field value : String} {maximum : Nat} {failure : Failure}
    (failed : validateText field value maximum = .error failure) :
    failure = .folio (field ++ " must not be empty") ∨
      failure = .folio (field ++ " exceeds " ++ toString maximum ++ " characters") := by
  unfold validateText at failed
  split at failed
  · exact Or.inl (Except.error.inj failed).symm
  · split at failed
    · exact Or.inr (Except.error.inj failed).symm
    · cases failed

/-! ### JSON fields -/

section Json

variable {F : Type} [FloatFormat F]

/-- `_json`: the printed text is ASCII, one byte a character. -/
def json (value : Json F) (field : String) : Except Failure String :=
  match dumps false value with
  | none => .error (.folio (field ++ " must be JSON serializable"))
  | some encoded =>
      if maxContextBytes < encoded.length then
        .error (.folio (field ++ " exceeds " ++ toString maxContextBytes ++ " bytes"))
      else .ok (String.ofList encoded)

theorem json_ok {value : Json F} {field text : String} (encoded : json value field = .ok text) :
    ∃ printed, dumps false value = some printed ∧ text = String.ofList printed := by
  unfold json at encoded
  split at encoded
  · cases encoded
  · rename_i printed dumped
    split at encoded
    · cases encoded
    · exact ⟨printed, dumped, (Except.ok.inj encoded).symm⟩

/-- `json.loads` of a stored text. -/
def loadText (text : String) : Except Failure (Json F) :=
  match loads text.toList with
  | .ok value => .ok value
  | .error e => .error (.json e)

/-- What `_json` wrote reads back as the value itself. -/
theorem loadText_json {value : Json F} {field text : String} (encoded : json value field = .ok text) :
    loadText text = .ok value.sortKeys.reread := by
  obtain ⟨printed, dumped, same⟩ := json_ok encoded
  unfold loadText
  rw [same, String.toList_ofList, loads_dumps dumped]

def validateVersionInput (settings : Settings) (data : Bytes) (mediaType actor reason : String)
    (sourceContext : List (PyStr × Json F)) : Except Failure String := do
  if settings.maxArtifactBytes < data.length then
    .error (.folio ("artifact exceeds " ++ toString settings.maxArtifactBytes ++ " bytes"))
  else
    validateText "media_type" mediaType maxMediaTypeLength
    validateText "actor" actor maxNameLength
    validateText "reason" reason maxReasonLength
    json (.obj sourceContext) "source_context"

end Json

/-! ### Text and chunks -/

def textMediaTypes : List String :=
  ["application/javascript", "application/json", "application/ld+json", "application/xml",
    "text/css", "text/csv", "text/html", "text/javascript", "text/markdown", "text/plain",
    "text/xml"]

def textFor (data : Bytes) (mediaType : String) : Option (List Char) :=
  if mediaType ∉ textMediaTypes ∧ ¬"text/".toList <+: mediaType.toList then none
  else some (decodeUtf8 data)

def chunkSize : Nat := 1200

structure Chunk where
  ordinal : Nat
  start : Nat
  finish : Nat
  content : String
  deriving DecidableEq

def chunkAt (text : List Char) (ordinal : Nat) : Chunk :=
  let start := ordinal * chunkSize
  let finish := min (start + chunkSize) text.length
  ⟨ordinal, start, finish, String.ofList ((text.drop start).take (finish - start))⟩

/-- `_chunks`: one chunk for each start in `range(0, len(text), chunk_size)`. -/
def chunks (text : List Char) : List Chunk :=
  (List.range ((text.length + (chunkSize - 1)) / chunkSize)).map (chunkAt text)

end FolioLattice.Store
