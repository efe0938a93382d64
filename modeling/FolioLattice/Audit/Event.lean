/-
Audit events: the bounded fields, the canonical record and its hash.
-/

import FolioLattice.Store.Validate

namespace FolioLattice.Audit

open FolioLattice.Text FolioLattice.Data FolioLattice.Store

def auditSchemaVersion : String := "audit-v2"

/-! ### Tokens -/

def isTokenChar (c : Char) : Bool :=
  ('A' ≤ c && c ≤ 'Z') || ('a' ≤ c && c ≤ 'z') || ('0' ≤ c && c ≤ '9') ||
    c = '_' || c = '.' || c = ':' || c = '/' || c = '-'

/-- `_SAFE_TOKEN` without `://`: 1 to 255 characters, none of them a space. -/
def IsToken (value : String) : Prop :=
  value.toList ≠ [] ∧ value.length ≤ 255 ∧ value.toList.all isTokenChar = true ∧
    contains value.toList "://".toList = false

instance (value : String) : Decidable (IsToken value) := inferInstanceAs (Decidable (_ ∧ _))

def validateToken (field value : String) : Except Failure Unit :=
  if IsToken value then .ok () else .error (.folio (field ++ " is invalid"))

theorem validateToken_ok_iff {field value : String} :
    validateToken field value = .ok () ↔ IsToken value := by
  unfold validateToken
  split
  · rename_i token
    exact ⟨fun _ => token, fun _ => rfl⟩
  · rename_i other
    constructor
    · intro impossible
      cases impossible
    · intro token
      exact absurd token other

theorem isTokenChar_visible {c : Char} (token : isTokenChar c = true) : isSpace c = false := by
  have range : 33 ≤ c.toNat ∧ c.toNat ≤ 126 := by
    have least : ∀ d : Char, d ≤ c → d.toNat ≤ c.toNat := fun d le => le
    have most : ∀ d : Char, c ≤ d → c.toNat ≤ d.toNat := fun d le => le
    have bounds : ∀ low high : Char, low ≤ c ∧ c ≤ high → low.toNat ≤ c.toNat ∧ c.toNat ≤ high.toNat :=
      fun low high between => ⟨least low between.1, most high between.2⟩
    unfold isTokenChar at token
    simp only [Bool.or_eq_true, Bool.and_eq_true, decide_eq_true_eq] at token
    rcases token with ((((((upper | lower) | digit) | same) | same) | same) | same) | same
    · have between := bounds 'A' 'Z' upper
      change 65 ≤ _ ∧ _ ≤ 90 at between
      omega
    · have between := bounds 'a' 'z' lower
      change 97 ≤ _ ∧ _ ≤ 122 at between
      omega
    · have between := bounds '0' '9' digit
      change 48 ≤ _ ∧ _ ≤ 57 at between
      omega
    all_goals
      rw [same]
      decide
  unfold isSpace inRuns spaceRuns
  rw [List.any_eq_false]
  simp only [List.forall_mem_cons, Bool.and_eq_true, decide_eq_true_eq, List.not_mem_nil,
    false_imp_iff, implies_true, and_true]
  omega

theorem IsToken.validText {value : String} (token : IsToken value) :
    ValidText value maxNameLength := by
  obtain ⟨some, short, chars, _⟩ := token
  refine ⟨?_, short⟩
  obtain ⟨c, rest, isValue⟩ := List.exists_cons_of_ne_nil some
  have member : c ∈ value.toList := by
    rw [isValue]
    exact List.mem_cons_self
  unfold isBlank
  rw [List.isEmpty_eq_false_iff]
  intro blank
  have space := (strip_eq_nil_iff _).mp blank c member
  rw [isTokenChar_visible (List.all_eq_true.mp chars c member)] at space
  cases space

theorem isHexDigit_token {c : Char} (digit : isHexDigit c = true) :
    isTokenChar c = true ∧ c ≠ ':' := by
  unfold isHexDigit at digit
  unfold isTokenChar
  simp only [Bool.or_eq_true, Bool.and_eq_true, decide_eq_true_eq] at digit ⊢
  rcases digit with ⟨low, high⟩ | ⟨low, high⟩
  · refine ⟨by tauto, ?_⟩
    intro same
    rw [same] at high
    exact absurd high (by decide)
  · refine ⟨Or.inl (Or.inl (Or.inl (Or.inl (Or.inl (Or.inl (Or.inr ⟨low, ?_⟩)))))), ?_⟩
    · exact le_trans high (by decide)
    · intro same
      rw [same] at low
      exact absurd low (by decide)

theorem IsToken.nonempty {text : String} (token : IsToken text) : text ≠ "" := by
  intro empty
  exact token.1 (by rw [empty]; rfl)

theorem uuid_token (uuid : Uuid) : IsToken uuid.hex := by
  have each : ∀ c ∈ uuid.hex.toList, isTokenChar c = true ∧ c ≠ ':' :=
    fun c member => isHexDigit_token (List.all_eq_true.mp uuid.isHex.2 c member)
  have long : uuid.hex.toList.length = 32 := by
    rw [String.length_toList]
    exact uuid.isHex.1
  refine ⟨?_, ?_, List.all_eq_true.mpr (fun c member => (each c member).1), ?_⟩
  · intro empty
    rw [empty] at long
    cases long
  · rw [uuid.isHex.1]
    decide
  · rw [← Bool.not_eq_true]
    intro scheme
    have inside := (findFrom_isSome_iff _ 0 _).mp scheme
    exact (each ':' (inside.subset (by decide))).2 rfl

/-- An id is a token, whatever the uuid. -/
theorem newId_token {kind : String} (short : kind.length ≤ 222)
    (chars : kind.toList.all (fun c => isTokenChar c && c != ':') = true) (uuid : Uuid) :
    IsToken (newId kind uuid) := by
  have all : ∀ c ∈ (newId kind uuid).toList, isTokenChar c = true ∧ c ≠ ':' := by
    intro c member
    unfold newId at member
    rw [String.toList_append, String.toList_append, List.mem_append, List.mem_append] at member
    rcases member with (inKind | bar) | inHex
    · have fine := List.all_eq_true.mp chars c inKind
      rw [Bool.and_eq_true, bne_iff_ne] at fine
      exact fine
    · rw [List.mem_singleton.mp bar]
      decide
    · exact isHexDigit_token (List.all_eq_true.mp uuid.isHex.2 c inHex)
  refine ⟨?_, ?_, ?_, ?_⟩
  · unfold newId
    rw [String.toList_append, String.toList_append]
    simp
  · rw [newId_length]
    omega
  · exact List.all_eq_true.mpr (fun c member => (all c member).1)
  · rw [← Bool.not_eq_true]
    intro scheme
    have inside := (findFrom_isSome_iff _ 0 _).mp scheme
    exact (all ':' (inside.subset (by decide))).2 rfl

/-! ### Details -/

def auditDetailKeys : List String :=
  ["status_code", "reason_code", "policy_version", "source", "connection_id", "tool_name",
    "resource_type", "resource_id", "limit_name", "retry_after", "transport"]

def restrictedMarkers : List String := ["bearer", "token", "secret", "credential", "password"]

/-- `str.casefold` on code points; a lone surrogate has no case. -/
def casefoldPy (text : PyStr) : PyStr :=
  text.flatMap (fun c =>
    if c.val.isValidChar then (casefoldChar (Char.ofNat c.val)).map codePoint else [c])

def containsPy (value needle : PyStr) : Bool := decide (needle <:+: value)

def outOfBounds : Failure := .folio "audit detail is out of bounds"

section Details

variable {F : Type} [FloatFormat F]

/-- The details' values that are stored: bounded scalars. -/
def safeValue (value : Json F) : Except Failure (Json F) :=
  match value with
  | .bool _ => .ok value
  | .int n => if 1000000000 < n.natAbs then .error outOfBounds else .ok value
  | .float (.finite x) =>
      if FloatFormat.exceeds x 1000000000000 then .error outOfBounds else .ok value
  | .float _ => .error outOfBounds
  | .str text =>
      if 255 < text.length ∨ text.any (fun c => c.val < 0x20 || c.val = 0x7f) ∨
          containsPy text (pyStr "://") ∨
          restrictedMarkers.any (fun marker => containsPy (casefoldPy text) (pyStr marker)) then
        .error outOfBounds
      else .ok value
  | _ => .error (.folio "audit details must contain scalar values")

def safeEntries : List (PyStr × Json F) → Except Failure (List (PyStr × Json F))
  | [] => .ok []
  | (key, value) :: rest => do
      if key ∉ auditDetailKeys.map pyStr then
        .error (.folio "audit details contain a restricted field")
      else
        let safe ← safeValue value
        let rest ← safeEntries rest
        .ok ((key, safe) :: rest)

/-- `safe_details`; a mapping has each of its keys once. -/
def safeDetails (details : Option (List (PyStr × Json F))) :
    Except Failure (List (PyStr × Json F)) :=
  match details with
  | none => .ok []
  | some entries =>
      if auditDetailKeys.length < entries.length then
        .error (.folio "audit details are invalid")
      else safeEntries entries

/-! ### The canonical record -/

/-- An event as it is hashed: every column but the hash, with its details parsed. -/
structure AuditEvent (F : Type) where
  id : String
  occurredAt : String
  tenantId : String
  actorId : String
  actorType : String
  requestId : String
  correlationId : String
  traceId : String
  spanId : String
  action : String
  resourceType : String
  resourceId : Option String
  outcome : String
  reason : String
  policyVersion : String
  source : String
  details : Json F
  retentionClass : String
  expiresAt : String
  legalHold : Bool

def text (value : String) : Json F := .str (pyStr value)

def AuditEvent.toJson (event : AuditEvent F) : Json F :=
  .obj [
    (pyStr "id", text event.id),
    (pyStr "occurred_at", text event.occurredAt),
    (pyStr "tenant_id", text event.tenantId),
    (pyStr "actor_id", text event.actorId),
    (pyStr "actor_type", text event.actorType),
    (pyStr "request_id", text event.requestId),
    (pyStr "correlation_id", text event.correlationId),
    (pyStr "trace_id", text event.traceId),
    (pyStr "span_id", text event.spanId),
    (pyStr "action", text event.action),
    (pyStr "resource_type", text event.resourceType),
    (pyStr "resource_id", (event.resourceId.map text).getD .null),
    (pyStr "outcome", text event.outcome),
    (pyStr "reason", text event.reason),
    (pyStr "policy_version", text event.policyVersion),
    (pyStr "source", text event.source),
    (pyStr "details", event.details),
    (pyStr "retention_class", text event.retentionClass),
    (pyStr "expires_at", text event.expiresAt),
    (pyStr "legal_hold", .bool event.legalHold)]

/-- ASCII text as bytes. -/
def asciiBytes (text : List Char) : Bytes := text.map (fun c => UInt8.ofNat c.toNat)

/-- `canonical_event`; `none` is the `ValueError` of `json.dumps`. -/
def canonicalEvent (event : AuditEvent F) : Option (List Char) := dumps true event.toJson

def integrityHash (settings : Settings) (event : AuditEvent F) : Option String :=
  (canonicalEvent event).map (fun text => (settings.sha256 (asciiBytes text)).hex)

/-- `legacy_trace_id` and `legacy_span_id`: a digest's first characters. -/
def legacyId (settings : Settings) (label : String) (length : Nat) (eventId : String) : String :=
  String.ofList ((settings.sha256 (label ++ eventId).toUTF8.toList).hex.toList.take length)

def legacyTraceId (settings : Settings) (eventId : String) : String :=
  legacyId settings "folio-legacy-trace:" 32 eventId

def legacySpanId (settings : Settings) (eventId : String) : String :=
  legacyId settings "folio-legacy-span:" 16 eventId

/-! ### Rows -/

/-- `_audit_row`: details that are no JSON text count as empty; a number of too
many digits raises. -/
def readDetails (detailsJson : String) : Except Failure (Json F) :=
  match loads detailsJson.toList with
  | .ok value => .ok value
  | .error .decode => .ok (.obj [])
  | .error .digits => .error (.json .digits)

def auditRow (row : AuditEventRow) : Except Failure (AuditEvent F) := do
  let details ← readDetails row.detailsJson
  .ok {
    id := row.id
    occurredAt := row.occurredAt
    tenantId := row.tenantId
    actorId := row.actorId
    actorType := row.actorType
    requestId := row.requestId
    correlationId := row.correlationId
    traceId := row.traceId
    spanId := row.spanId
    action := row.action
    resourceType := row.resourceType
    resourceId := row.resourceId
    outcome := row.outcome
    reason := row.reason
    policyVersion := row.policyVersion
    source := row.source
    details := details
    retentionClass := row.retentionClass
    expiresAt := row.expiresAt
    legalHold := row.legalHold ≠ 0 }

/-- What `json.dumps` raises on an integer of too many digits. -/
def hashOrRaise (settings : Settings) (event : AuditEvent F) : Except Failure String :=
  match integrityHash settings event with
  | some hash => .ok hash
  | none => .error (.json .digits)

def integrityFailed : Failure := .folio "audit integrity verification failed"

/-- `_verified_audit_row` with `_audit_integrity_ok`. -/
def verifiedAuditRow (settings : Settings) (row : AuditEventRow) : Except Failure (AuditEvent F) := do
  let event ← auditRow row
  let hash ← hashOrRaise settings event
  if row.integrityHash = hash then .ok event else .error integrityFailed

/-- The columns of an event that is stored with its details printed. -/
def AuditEvent.row (event : AuditEvent F) (detailsJson integrityHash : String) : AuditEventRow where
  id := event.id
  occurredAt := event.occurredAt
  tenantId := event.tenantId
  actorId := event.actorId
  actorType := event.actorType
  requestId := event.requestId
  correlationId := event.correlationId
  traceId := event.traceId
  spanId := event.spanId
  action := event.action
  resourceType := event.resourceType
  resourceId := event.resourceId
  outcome := event.outcome
  reason := event.reason
  policyVersion := event.policyVersion
  source := event.source
  detailsJson := detailsJson
  retentionClass := event.retentionClass
  expiresAt := event.expiresAt
  legalHold := if event.legalHold then 1 else 0
  integrityHash := integrityHash

end Details

end FolioLattice.Audit
