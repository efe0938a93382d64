/-
Requests that an artifact makes of the MCP server it is attached to:
`validate_bridge_request` and the arguments that it builds anew.
-/

import FolioLattice.External.CredentialScan

namespace FolioLattice.Bridge

open FolioLattice.Data FolioLattice.External
open FolioLattice.Effects (except_bind_ok except_map_ok except_bind_pass)

def bridgeAttachment : PyStr := pyStr "folio-lattice"

def artifactRead : PyStr := pyStr "artifact_read"

def artifactSearch : PyStr := pyStr "artifact_search"

def graphTraverse : PyStr := pyStr "graph_traverse"

/-- `BRIDGE_TOOLS` -/
def bridgeTools : List PyStr := [artifactRead, artifactSearch, graphTraverse]

def maxBridgeArgumentBytes : Nat := 32 * 1024

def maxBridgeRequestId : Nat := 100

def maxIdLength : Nat := 255

/-- What a call of the bridge may end with instead of a result. -/
inductive BridgeFailure where
  /-- `BridgeRequestError` -/
  | request (message reason : String)
  /-- `PublicMcpError` -/
  | publicMcp (message : String)
  | recursionError
  | cancelled
  deriving DecidableEq

def invalidRequest (message : String) : BridgeFailure := .request message "invalid_request"

variable {F : Type}

abbrev Arguments (F : Type) := List (PyStr × Json F)

/-- What `validate_bridge_request` returns. -/
structure BridgeRequest (F : Type) where
  requestId : PyStr
  artifactId : PyStr
  attachment : PyStr
  tool : PyStr
  arguments : Arguments F

/-- The same, as the dictionary that it is. -/
def BridgeRequest.dict (request : BridgeRequest F) : Json F :=
  .obj [(pyStr "request_id", .str request.requestId), (pyStr "artifact_id", .str request.artifactId),
    (pyStr "attachment", .str request.attachment), (pyStr "tool", .str request.tool),
    (pyStr "arguments", .obj request.arguments)]

/-! ### Checks -/

/-- `_bounded_string` -/
def boundedString (value : Json F) (field : String) (maximum : Nat) : Except BridgeFailure PyStr :=
  match value with
  | .str text =>
      if text.isEmpty || maximum < text.length then
        .error (invalidRequest (field ++ " must be a non-empty bounded string"))
      else .ok text
  | _ => .error (invalidRequest (field ++ " must be a non-empty bounded string"))

/-- `_integer` -/
def integer (value : Json F) (field : String) (minimum maximum : Int) : Except BridgeFailure Int :=
  match value with
  | .int number =>
      if minimum ≤ number ∧ number ≤ maximum then .ok number
      else .error (invalidRequest
        (field ++ " must be between " ++ toString minimum ++ " and " ++ toString maximum))
  | _ => .error (invalidRequest
      (field ++ " must be between " ++ toString minimum ++ " and " ++ toString maximum))

/-- The value of the field that a tool asks for, if no field is unknown. -/
def requiredField (tool : String) (allowed : List PyStr) (required : PyStr)
    (arguments : Arguments F) : Except BridgeFailure (Json F) :=
  match lookup required arguments with
  | some value =>
      if arguments.all (fun entry => allowed.contains entry.1) then .ok value
      else .error (invalidRequest (tool ++ " arguments have invalid fields"))
  | none => .error (invalidRequest (tool ++ " arguments have invalid fields"))

/-- A field that may be missing. -/
def optionalField (key : PyStr) (check : Json F → Except BridgeFailure (Json F))
    (arguments : Arguments F) : Except BridgeFailure (Arguments F) :=
  match lookup key arguments with
  | none => .ok []
  | some value => (check value).map (fun checked => [(key, checked)])

def optionalInteger (field : String) (minimum maximum : Int) :
    Arguments F → Except BridgeFailure (Arguments F) :=
  optionalField (pyStr field) (fun value => (integer value field minimum maximum).map .int)

/-- `version_id`, which may also be `None`. -/
def optionalVersion (arguments : Arguments F) : Except BridgeFailure (Arguments F) :=
  match lookup (pyStr "version_id") arguments with
  | some .null => .ok []
  | _ =>
      optionalField (pyStr "version_id")
        (fun value => (boundedString value "version_id" maxIdLength).map .str) arguments

/-- `_validate_tool_arguments` -/
def validateToolArguments (tool : PyStr) (arguments : Arguments F) :
    Except BridgeFailure (Arguments F) :=
  if tool = artifactRead then do
    let value ← requiredField "artifact_read" [pyStr "artifact_id", pyStr "version_id"]
      (pyStr "artifact_id") arguments
    let artifactId ← boundedString value "artifact_id" maxIdLength
    let versionId ← optionalVersion arguments
    .ok ((pyStr "artifact_id", .str artifactId) :: versionId)
  else if tool = artifactSearch then do
    let value ← requiredField "artifact_search" [pyStr "query", pyStr "limit"] (pyStr "query")
      arguments
    let query ← boundedString value "query" 500
    let limit ← optionalInteger "limit" 1 100 arguments
    .ok ((pyStr "query", .str query) :: limit)
  else if tool = graphTraverse then do
    let value ← requiredField "graph_traverse"
      [pyStr "start_artifact_id", pyStr "max_depth", pyStr "limit"] (pyStr "start_artifact_id")
      arguments
    let startArtifactId ← boundedString value "start_artifact_id" maxIdLength
    let maxDepth ← optionalInteger "max_depth" 0 10 arguments
    let limit ← optionalInteger "limit" 1 500 arguments
    .ok ((pyStr "start_artifact_id", .str startArtifactId) :: (maxDepth ++ limit))
  else .ok arguments

/-- `arguments.get(key) == artifact_id` -/
def targets (key artifactId : PyStr) (arguments : Arguments F) : Bool :=
  match lookup key arguments with
  | some (.str target) => target = artifactId
  | _ => false

/-- `_require_artifact_binding` -/
def requireArtifactBinding (tool artifactId : PyStr) (arguments : Arguments F) :
    Except BridgeFailure Unit :=
  if (tool = artifactRead ∧ targets (pyStr "artifact_id") artifactId arguments = false) ∨
      (tool = graphTraverse ∧
        targets (pyStr "start_artifact_id") artifactId arguments = false) then
    .error (.request "bridge request does not target its attached artifact" "artifact_mismatch")
  else .ok ()

/-- A value that has no others in it. -/
def isLeaf : Json F → Bool
  | .arr _ => false
  | .obj _ => false
  | _ => true

/-- Where the stack of the interpreter ends for `json.dumps`, which is a `RecursionError`.
It is enough for a dictionary of leaves. -/
structure DumpsStack (F : Type) where
  overflows : PyValue F → Bool
  flat : ∀ entries : Arguments F, (∀ entry ∈ entries, isLeaf entry.2 = true) →
    overflows (.ofJson (.obj entries)) = false

variable [FloatFormat F] (stack : DumpsStack F)

/-- The arguments, printed and measured. -/
def checkArguments (arguments : Arguments F) : Except BridgeFailure Unit :=
  if stack.overflows (.ofJson (.obj arguments)) then .error .recursionError
  else if !(Json.obj arguments).encodable false then
    .error (invalidRequest "arguments must be valid JSON")
  else if maxBridgeArgumentBytes < (Json.obj arguments).print.length then
    .error (.request "bridge arguments are too large" "oversized_arguments")
  else .ok ()

def requestFields : List PyStr :=
  [pyStr "request_id", pyStr "artifact_id", pyStr "attachment", pyStr "tool", pyStr "arguments"]

def hasRequestFields (fields : Arguments F) : Bool :=
  fields.all (fun entry => requestFields.contains entry.1) &&
    requestFields.all (fun key => (lookup key fields).isSome)

/-- `value[key]` of a key that is there -/
def fieldOf (key : String) (fields : Arguments F) : Json F :=
  (lookup (pyStr key) fields).getD .null

/-- `validate_bridge_request` -/
def validateBridgeRequest (value : Json F) : Except BridgeFailure (BridgeRequest F) :=
  match value with
  | .obj fields =>
      if !hasRequestFields fields then
        .error (invalidRequest "bridge request has invalid fields")
      else do
        let requestId ← boundedString (fieldOf "request_id" fields) "request_id" maxBridgeRequestId
        let artifactId ← boundedString (fieldOf "artifact_id" fields) "artifact_id" maxIdLength
        let attachment ← boundedString (fieldOf "attachment" fields) "attachment" 100
        let tool ← boundedString (fieldOf "tool" fields) "tool" 128
        match fieldOf "arguments" fields with
        | .obj arguments =>
            checkArguments stack arguments
            let arguments ← validateToolArguments tool arguments
            requireArtifactBinding tool artifactId arguments
            .ok ⟨requestId, artifactId, attachment, tool, arguments⟩
        | _ => .error (invalidRequest "arguments must be a JSON object")
  | _ => .error (invalidRequest "bridge request must be a JSON object")

/-! ### The fields of the tools -/

inductive FieldBound where
  | text (maximum : Nat)
  | number (minimum maximum : Int)

def FieldBound.Holds : FieldBound → Json F → Prop
  | .text maximum, .str value => value ≠ [] ∧ value.length ≤ maximum
  | .number minimum maximum, .int value => minimum ≤ value ∧ value ≤ maximum
  | _, _ => False

/-- The fields that a tool knows, each with its bound. -/
def knownFields (tool : PyStr) : List (PyStr × FieldBound) :=
  if tool = artifactRead then
    [(pyStr "artifact_id", .text maxIdLength), (pyStr "version_id", .text maxIdLength)]
  else if tool = artifactSearch then
    [(pyStr "query", .text 500), (pyStr "limit", .number 1 100)]
  else if tool = graphTraverse then
    [(pyStr "start_artifact_id", .text maxIdLength), (pyStr "max_depth", .number 0 10),
      (pyStr "limit", .number 1 500)]
  else []

/-- Nothing but known fields, within their bounds. -/
def Within (fields : List (PyStr × FieldBound)) (arguments : Arguments F) : Prop :=
  ∀ entry ∈ arguments, ∃ bound, (entry.1, bound) ∈ fields ∧ bound.Holds entry.2

section Checks

omit [FloatFormat F]

theorem boundedString_ok {value : Json F} {field : String} {maximum : Nat} {text : PyStr}
    (fine : boundedString value field maximum = .ok text) :
    value = .str text ∧ text ≠ [] ∧ text.length ≤ maximum := by
  unfold boundedString at fine
  split at fine
  · split_ifs at fine with bad
    simp only [Bool.or_eq_true, List.isEmpty_iff, decide_eq_true_eq, not_or, Nat.not_lt] at bad
    cases fine
    exact ⟨rfl, bad⟩
  · cases fine

theorem boundedString_of {field : String} {maximum : Nat} {text : PyStr} (filled : text ≠ [])
    (short : text.length ≤ maximum) :
    boundedString (.str text : Json F) field maximum = .ok text := by
  unfold boundedString
  refine if_neg ?_
  simp only [Bool.or_eq_true, List.isEmpty_iff, decide_eq_true_eq, not_or, Nat.not_lt]
  exact ⟨filled, short⟩

theorem integer_ok {value : Json F} {field : String} {minimum maximum number : Int}
    (fine : integer value field minimum maximum = .ok number) :
    value = .int number ∧ minimum ≤ number ∧ number ≤ maximum := by
  unfold integer at fine
  split at fine
  · split_ifs at fine with inside
    cases fine
    exact ⟨rfl, inside⟩
  · cases fine

theorem integer_of {field : String} {minimum maximum number : Int}
    (inside : minimum ≤ number ∧ number ≤ maximum) :
    integer (.int number : Json F) field minimum maximum = .ok number := if_pos inside

theorem optionalField_ok {key : PyStr} {check : Json F → Except BridgeFailure (Json F)}
    {arguments entries : Arguments F} (fine : optionalField key check arguments = .ok entries) :
    (lookup key arguments = none ∧ entries = []) ∨
      ∃ value checked, check value = .ok checked ∧ entries = [(key, checked)] := by
  unfold optionalField at fine
  cases found : lookup key arguments with
  | none =>
      rw [found] at fine
      cases fine
      exact Or.inl ⟨rfl, rfl⟩
  | some value =>
      rw [found] at fine
      obtain ⟨checked, passed, same⟩ := except_map_ok fine
      exact Or.inr ⟨value, checked, passed, same.symm⟩

/-- A check that is passed by what it returns. -/
def Settles (check : Json F → Except BridgeFailure (Json F)) (bound : FieldBound) : Prop :=
  ∀ value checked, check value = .ok checked → bound.Holds checked ∧ check checked = .ok checked

theorem optionalField_within {key : PyStr} {check : Json F → Except BridgeFailure (Json F)}
    {bound : FieldBound} (settles : Settles check bound) {arguments entries : Arguments F}
    (fine : optionalField key check arguments = .ok entries) : Within [(key, bound)] entries := by
  intro entry member
  rcases optionalField_ok fine with ⟨_, same⟩ | ⟨value, checked, passed, same⟩
  · rw [same] at member
    cases member
  · rw [same, List.mem_singleton] at member
    rw [member]
    exact ⟨bound, List.mem_singleton_self _, (settles _ _ passed).1⟩

/-- A field that was taken over is taken over again, from any arguments that have it. -/
theorem optionalField_again {key : PyStr} {check : Json F → Except BridgeFailure (Json F)}
    {bound : FieldBound} (settles : Settles check bound) {arguments entries whole : Arguments F}
    (fine : optionalField key check arguments = .ok entries)
    (same : lookup key whole = lookup key entries) :
    optionalField key check whole = .ok entries := by
  unfold optionalField
  rcases optionalField_ok fine with ⟨_, is⟩ | ⟨value, checked, passed, is⟩
  · rw [same, is]
    rfl
  · have found : lookup key [(key, checked)] = some checked := by
      simp [lookup]
    rw [same, is, found]
    change (check checked).map (fun checked => [(key, checked)]) = _
    rw [(settles _ _ passed).2]
    rfl

theorem settles_text (field : String) (maximum : Nat) :
    Settles (F := F) (fun value => (boundedString value field maximum).map .str) (.text maximum) := by
  intro value checked passed
  obtain ⟨text, fine, same⟩ := except_map_ok passed
  obtain ⟨_, filled, short⟩ := boundedString_ok fine
  rw [← same]
  refine ⟨⟨filled, short⟩, ?_⟩
  dsimp only
  rw [boundedString_of filled short]
  rfl

theorem settles_number (field : String) (minimum maximum : Int) :
    Settles (F := F) (fun value => (integer value field minimum maximum).map .int)
      (.number minimum maximum) := by
  intro value checked passed
  obtain ⟨number, fine, same⟩ := except_map_ok passed
  have inside := (integer_ok fine).2
  rw [← same]
  refine ⟨inside, ?_⟩
  dsimp only
  rw [integer_of inside]
  rfl

/-- `version_id` is taken over like any other field, but a `None` is dropped. -/
theorem optionalVersion_ok {arguments entries : Arguments F}
    (fine : optionalVersion arguments = .ok entries) :
    ∃ arguments', optionalField (pyStr "version_id")
      (fun value => (boundedString value "version_id" maxIdLength).map .str) arguments' =
        .ok entries := by
  unfold optionalVersion at fine
  split at fine
  · cases fine
    exact ⟨[], rfl⟩
  · exact ⟨arguments, fine⟩

theorem optionalVersion_within {arguments entries : Arguments F}
    (fine : optionalVersion arguments = .ok entries) :
    Within [(pyStr "version_id", .text maxIdLength)] entries := by
  obtain ⟨_, taken⟩ := optionalVersion_ok fine
  exact optionalField_within (settles_text _ _) taken

theorem optionalVersion_again {arguments entries whole : Arguments F}
    (fine : optionalVersion arguments = .ok entries)
    (same : lookup (pyStr "version_id") whole = lookup (pyStr "version_id") entries) :
    optionalVersion whole = .ok entries := by
  obtain ⟨_, taken⟩ := optionalVersion_ok fine
  have again := optionalField_again (settles_text _ _) taken same
  have within := optionalVersion_within fine
  unfold optionalVersion
  split
  · rename_i null
    rw [same] at null
    obtain ⟨entry, found, is⟩ := Option.map_eq_some_iff.mp null
    obtain ⟨bound, known, holds⟩ := within entry (List.mem_of_find?_eq_some found)
    rw [List.mem_singleton, Prod.mk.injEq] at known
    rw [known.2, is] at holds
    exact holds.elim
  · exact again

/-! ### What is looked up in arguments that are put together -/

theorem lookup_cons_self {V : Type} (key : PyStr) (value : V) (rest : List (PyStr × V)) :
    lookup key ((key, value) :: rest) = some value := by
  unfold lookup
  rw [List.find?_cons_of_pos (by simp), Option.map_some]

theorem lookup_cons_other {V : Type} {key other : PyStr} (differ : other ≠ key) (value : V)
    (rest : List (PyStr × V)) : lookup key ((other, value) :: rest) = lookup key rest := by
  unfold lookup
  rw [List.find?_cons_of_neg (by simpa using differ)]

theorem lookup_append {V : Type} (key : PyStr) (left right : List (PyStr × V)) :
    lookup key (left ++ right) = (lookup key left).or (lookup key right) := by
  unfold lookup
  rw [List.find?_append, Option.map_or]

theorem Within.lookup_none {key : PyStr} {fields : List (PyStr × FieldBound)}
    {arguments : Arguments F} (within : Within fields arguments)
    (unknown : key ∉ fields.map (·.1)) : lookup key arguments = none := by
  refine Data.lookup_none (fun there => unknown ?_)
  obtain ⟨entry, member, same⟩ := List.mem_map.mp there
  obtain ⟨bound, known, _⟩ := within entry member
  rw [← same]
  exact List.mem_map_of_mem known

theorem requiredField_again {tool : String} {fields : List (PyStr × FieldBound)} {key : PyStr}
    {value : Json F} {rest : Arguments F} (within : Within fields ((key, value) :: rest)) :
    requiredField tool (fields.map (·.1)) key ((key, value) :: rest) = .ok value := by
  unfold requiredField
  rw [lookup_cons_self]
  refine if_pos (List.all_eq_true.mpr (fun entry member => ?_))
  obtain ⟨bound, known, _⟩ := within entry member
  exact List.contains_iff_mem.mpr (List.mem_map_of_mem known)

theorem Within.mono {fields fields' : List (PyStr × FieldBound)} {arguments : Arguments F}
    (within : Within fields arguments) (sub : fields ⊆ fields') : Within fields' arguments := by
  intro entry member
  obtain ⟨bound, known, holds⟩ := within entry member
  exact ⟨bound, sub known, holds⟩

theorem Within.cons {fields : List (PyStr × FieldBound)} {arguments : Arguments F} {key : PyStr}
    {value : Json F} {bound : FieldBound} (within : Within fields arguments)
    (holds : bound.Holds value) : Within ((key, bound) :: fields) ((key, value) :: arguments) := by
  intro entry member
  rcases List.mem_cons.mp member with same | member
  · rw [same]
    exact ⟨bound, List.mem_cons_self, holds⟩
  · obtain ⟨other, known, inside⟩ := within entry member
    exact ⟨other, List.mem_cons_of_mem _ known, inside⟩

theorem Within.append {fields fields' : List (PyStr × FieldBound)} {left right : Arguments F}
    (within : Within fields left) (within' : Within fields' right) :
    Within (fields ++ fields') (left ++ right) := by
  intro entry member
  rcases List.mem_append.mp member with member | member
  · obtain ⟨bound, known, holds⟩ := within entry member
    exact ⟨bound, List.mem_append_left _ known, holds⟩
  · obtain ⟨bound, known, holds⟩ := within' entry member
    exact ⟨bound, List.mem_append_right _ known, holds⟩

/-! ### The arguments that are built anew -/

theorem artifactSearch_ne : artifactSearch ≠ artifactRead := by decide

theorem graphTraverse_ne : graphTraverse ≠ artifactRead ∧ graphTraverse ≠ artifactSearch := by
  decide

/-- Arguments that were built for a known tool: a few of its fields within their bounds,
which pass the same check unchanged. -/
structure Rebuilt (tool : PyStr) (arguments : Arguments F) : Prop where
  within : Within (knownFields tool) arguments
  few : arguments.length ≤ 3
  again : validateToolArguments tool arguments = .ok arguments

theorem optionalField_length {key : PyStr} {check : Json F → Except BridgeFailure (Json F)}
    {arguments entries : Arguments F} (fine : optionalField key check arguments = .ok entries) :
    entries.length ≤ 1 := by
  rcases optionalField_ok fine with ⟨_, same⟩ | ⟨_, _, _, same⟩
  · rw [same]
    exact Nat.zero_le 1
  · rw [same]
    exact Nat.le_refl 1

theorem validateToolArguments_read {arguments arguments' : Arguments F}
    (fine : validateToolArguments artifactRead arguments = .ok arguments') :
    Rebuilt artifactRead arguments' := by
  have differ : pyStr "artifact_id" ≠ pyStr "version_id" := by decide
  unfold validateToolArguments at fine
  rw [if_pos rfl] at fine
  obtain ⟨value, required, fine⟩ := except_bind_ok fine
  obtain ⟨artifactId, bounded, fine⟩ := except_bind_ok fine
  obtain ⟨versionId, version, fine⟩ := except_bind_ok fine
  cases fine
  obtain ⟨_, filled, short⟩ := boundedString_ok bounded
  have within : Within (knownFields artifactRead)
      ((pyStr "artifact_id", .str artifactId) :: versionId) :=
    (optionalVersion_within version).cons ⟨filled, short⟩
  obtain ⟨_, one⟩ := optionalVersion_ok version
  refine ⟨within, Nat.succ_le_succ (Nat.le_succ_of_le (optionalField_length one)), ?_⟩
  unfold validateToolArguments
  rw [if_pos rfl]
  refine except_bind_pass (requiredField_again within) ?_
  refine except_bind_pass (boundedString_of filled short) ?_
  refine except_bind_pass (optionalVersion_again version (lookup_cons_other differ _ _)) ?_
  rfl

theorem validateToolArguments_search {arguments arguments' : Arguments F}
    (fine : validateToolArguments artifactSearch arguments = .ok arguments') :
    Rebuilt artifactSearch arguments' := by
  have differ : pyStr "query" ≠ pyStr "limit" := by decide
  unfold validateToolArguments at fine
  rw [if_neg artifactSearch_ne, if_pos rfl] at fine
  obtain ⟨value, required, fine⟩ := except_bind_ok fine
  obtain ⟨query, bounded, fine⟩ := except_bind_ok fine
  obtain ⟨limit, taken, fine⟩ := except_bind_ok fine
  cases fine
  obtain ⟨_, filled, short⟩ := boundedString_ok bounded
  have within : Within (knownFields artifactSearch) ((pyStr "query", .str query) :: limit) :=
    (optionalField_within (settles_number _ _ _) taken).cons ⟨filled, short⟩
  refine ⟨within, Nat.succ_le_succ (Nat.le_succ_of_le (optionalField_length taken)), ?_⟩
  unfold validateToolArguments
  rw [if_neg artifactSearch_ne, if_pos rfl]
  refine except_bind_pass (requiredField_again within) ?_
  refine except_bind_pass (boundedString_of filled short) ?_
  refine except_bind_pass (optionalField_again (settles_number _ _ _) taken
    (lookup_cons_other differ _ _)) ?_
  rfl

theorem validateToolArguments_traverse {arguments arguments' : Arguments F}
    (fine : validateToolArguments graphTraverse arguments = .ok arguments') :
    Rebuilt graphTraverse arguments' := by
  have depth : pyStr "start_artifact_id" ≠ pyStr "max_depth" := by decide
  have differ : pyStr "start_artifact_id" ≠ pyStr "limit" := by decide
  unfold validateToolArguments at fine
  rw [if_neg graphTraverse_ne.1, if_neg graphTraverse_ne.2, if_pos rfl] at fine
  obtain ⟨value, required, fine⟩ := except_bind_ok fine
  obtain ⟨startArtifactId, bounded, fine⟩ := except_bind_ok fine
  obtain ⟨maxDepth, deep, fine⟩ := except_bind_ok fine
  obtain ⟨limit, taken, fine⟩ := except_bind_ok fine
  cases fine
  obtain ⟨_, filled, short⟩ := boundedString_ok bounded
  have inDepth := optionalField_within (settles_number _ _ _) deep
  have inLimit := optionalField_within (settles_number _ _ _) taken
  have within : Within (knownFields graphTraverse)
      ((pyStr "start_artifact_id", .str startArtifactId) :: (maxDepth ++ limit)) :=
    (inDepth.append inLimit).cons ⟨filled, short⟩
  have depthSame : lookup (pyStr "max_depth") ((pyStr "start_artifact_id",
      .str startArtifactId) :: (maxDepth ++ limit)) = lookup (pyStr "max_depth") maxDepth := by
    rw [lookup_cons_other depth, lookup_append, inLimit.lookup_none (by decide), Option.or_none]
  have limitSame : lookup (pyStr "limit") ((pyStr "start_artifact_id",
      .str startArtifactId) :: (maxDepth ++ limit)) = lookup (pyStr "limit") limit := by
    rw [lookup_cons_other differ, lookup_append, inDepth.lookup_none (by decide), Option.none_or]
  have few : (maxDepth ++ limit).length ≤ 2 := by
    rw [List.length_append]
    exact Nat.add_le_add (optionalField_length deep) (optionalField_length taken)
  refine ⟨within, Nat.succ_le_succ few, ?_⟩
  unfold validateToolArguments
  rw [if_neg graphTraverse_ne.1, if_neg graphTraverse_ne.2, if_pos rfl]
  refine except_bind_pass (requiredField_again within) ?_
  refine except_bind_pass (boundedString_of filled short) ?_
  refine except_bind_pass (optionalField_again (settles_number _ _ _) deep depthSame) ?_
  refine except_bind_pass (optionalField_again (settles_number _ _ _) taken limitSame) ?_
  rfl

/-- Arguments for a tool that the validation does not know are taken as they are. -/
theorem validateToolArguments_ok {tool : PyStr} {arguments arguments' : Arguments F}
    (fine : validateToolArguments tool arguments = .ok arguments') :
    Rebuilt tool arguments' ∨ (tool ∉ bridgeTools ∧ arguments' = arguments) := by
  by_cases read : tool = artifactRead
  · subst read
    exact Or.inl (validateToolArguments_read fine)
  · by_cases search : tool = artifactSearch
    · subst search
      exact Or.inl (validateToolArguments_search fine)
    · by_cases traverse : tool = graphTraverse
      · subst traverse
        exact Or.inl (validateToolArguments_traverse fine)
      · unfold validateToolArguments at fine
        rw [if_neg read, if_neg search, if_neg traverse] at fine
        cases fine
        refine Or.inr ⟨?_, rfl⟩
        unfold bridgeTools
        simp only [List.mem_cons, List.not_mem_nil, or_false, not_or]
        exact ⟨read, search, traverse⟩

end Checks

/-! ### Validated requests are valid -/

def FieldBound.isSmall : FieldBound → Bool
  | .text maximum => maximum ≤ 500
  | .number minimum maximum => 0 ≤ minimum && maximum ≤ 500

theorem knownFields_small (tool : PyStr) :
    ∀ field ∈ knownFields tool, field.1.length ≤ 20 ∧ field.2.isSmall = true := by
  unfold knownFields
  split_ifs <;> decide

/-- A value within a bound is printed in little space. -/
theorem FieldBound.Holds.small {bound : FieldBound} {value : Json F} (holds : bound.Holds value)
    (small : bound.isSmall = true) :
    isLeaf value = true ∧ value.encodable false = true ∧ value.print.length ≤ 6002 := by
  cases bound with
  | text maximum =>
      cases value with
      | str content =>
          have printed := printString_length content
          have short := holds.2.trans (of_decide_eq_true small)
          refine ⟨rfl, rfl, ?_⟩
          rw [Json.print]
          omega
      | _ => exact holds.elim
  | number minimum maximum =>
      cases value with
      | int value =>
          obtain ⟨positive, below⟩ := Bool.and_eq_true_iff.mp small
          have low := (of_decide_eq_true positive).trans holds.1
          have high := holds.2.trans (of_decide_eq_true below)
          have digits : (Nat.toDigits 10 value.natAbs).length ≤ 3 :=
            (Nat.length_toDigits_le_iff (by decide) (by decide)).mpr (by omega)
          refine ⟨rfl, ?_, ?_⟩
          · rw [Json.encodable, intEncodable]
            exact decide_eq_true (digits.trans (by decide))
          · rw [Json.print, printInt, if_neg (by omega), List.nil_append]
            omega
      | _ => exact holds.elim

theorem Rebuilt.checked {tool : PyStr} {arguments : Arguments F} (rebuilt : Rebuilt tool arguments) :
    checkArguments stack arguments = .ok () := by
  have small : ∀ entry ∈ arguments, isLeaf entry.2 = true ∧ entry.2.encodable false = true ∧
      (printString entry.1).length + 2 + entry.2.print.length ≤ 6500 := by
    intro entry member
    obtain ⟨bound, known, holds⟩ := rebuilt.within entry member
    obtain ⟨shortKey, isSmall⟩ := knownFields_small tool _ known
    obtain ⟨leaf, encodable, short⟩ := holds.small isSmall
    have key := printString_length entry.1
    dsimp only at shortKey
    exact ⟨leaf, encodable, by omega⟩
  have shallow := stack.flat arguments (fun entry member => (small entry member).1)
  have encodable : (Json.obj arguments).encodable false = true := by
    rw [Json.encodable]
    exact (encodableEntries_iff _ _).mpr (fun entry member => (small entry member).2.1)
  have each := List.sum_le_card_nsmul (arguments.map
    (fun e => (printString e.1).length + 2 + e.2.print.length)) 6500 (by
      intro size member
      obtain ⟨entry, inside, same⟩ := List.mem_map.mp member
      rw [← same]
      exact (small entry inside).2.2)
  rw [List.length_map, nsmul_eq_mul, Nat.cast_id] at each
  have printed := (printEntries_length arguments).1
  have few := rebuilt.few
  have short : ¬maxBridgeArgumentBytes < (Json.obj arguments).print.length := by
    rw [Json.print, List.length_append, List.length_cons, List.length_singleton]
    unfold maxBridgeArgumentBytes
    omega
  unfold checkArguments
  rw [shallow, encodable]
  exact if_neg short

variable {stack}

/-- What holds of a request that was accepted. -/
structure Accepted (stack : DumpsStack F) (request : BridgeRequest F) : Prop where
  requestId : request.requestId ≠ [] ∧ request.requestId.length ≤ maxBridgeRequestId
  artifactId : request.artifactId ≠ [] ∧ request.artifactId.length ≤ maxIdLength
  attachment : request.attachment ≠ [] ∧ request.attachment.length ≤ 100
  tool : request.tool ≠ [] ∧ request.tool.length ≤ 128
  checked : checkArguments stack request.arguments = .ok ()
  validated : validateToolArguments request.tool request.arguments = .ok request.arguments
  bound : requireArtifactBinding request.tool request.artifactId request.arguments = .ok ()
  known : request.tool ∈ bridgeTools → Within (knownFields request.tool) request.arguments

theorem validateBridgeRequest_ok {value : Json F} {request : BridgeRequest F}
    (valid : validateBridgeRequest stack value = .ok request) : Accepted stack request := by
  unfold validateBridgeRequest at valid
  split at valid
  · split at valid
    · cases valid
    · obtain ⟨requestId, one, valid⟩ := except_bind_ok valid
      obtain ⟨artifactId, two, valid⟩ := except_bind_ok valid
      obtain ⟨attachment, three, valid⟩ := except_bind_ok valid
      obtain ⟨tool, four, valid⟩ := except_bind_ok valid
      split at valid
      · obtain ⟨_, checked, valid⟩ := except_bind_ok valid
        obtain ⟨arguments', validated, valid⟩ := except_bind_ok valid
        obtain ⟨_, bound, valid⟩ := except_bind_ok valid
        cases valid
        refine ⟨(boundedString_ok one).2, (boundedString_ok two).2, (boundedString_ok three).2,
          (boundedString_ok four).2, ?_, ?_, bound, ?_⟩
        · rcases validateToolArguments_ok validated with rebuilt | ⟨_, same⟩
          · exact rebuilt.checked stack
          · rw [same]
            exact checked
        · rcases validateToolArguments_ok validated with rebuilt | ⟨_, same⟩
          · exact rebuilt.again
          · rw [same] at validated ⊢
            exact validated
        · intro member
          rcases validateToolArguments_ok validated with rebuilt | ⟨other, _⟩
          · exact rebuilt.within
          · exact absurd member other
      · cases valid
  · cases valid

/-- The validation accepts what it returns, unchanged. -/
theorem Accepted.again {request : BridgeRequest F} (accepted : Accepted stack request) :
    validateBridgeRequest stack request.dict = .ok request := by
  have fields : hasRequestFields [(pyStr "request_id", Json.str request.requestId),
      (pyStr "artifact_id", .str request.artifactId), (pyStr "attachment", .str request.attachment),
      (pyStr "tool", .str request.tool), (pyStr "arguments", .obj request.arguments)] = true := by
    rfl
  unfold validateBridgeRequest BridgeRequest.dict
  dsimp only
  rw [fields]
  refine except_bind_pass (boundedString_of accepted.requestId.1 accepted.requestId.2) ?_
  refine except_bind_pass (boundedString_of accepted.artifactId.1 accepted.artifactId.2) ?_
  refine except_bind_pass (boundedString_of accepted.attachment.1 accepted.attachment.2) ?_
  refine except_bind_pass (boundedString_of accepted.tool.1 accepted.tool.2) ?_
  refine except_bind_pass accepted.checked ?_
  refine except_bind_pass accepted.validated ?_
  refine except_bind_pass accepted.bound ?_
  rfl

end FolioLattice.Bridge
