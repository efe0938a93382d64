/-
A stored event passes the integrity check: what was hashed and what is read back
print as one text.
-/

import FolioLattice.Audit.Trail
import FolioLattice.Audit.Migrated

namespace FolioLattice.Audit

open FolioLattice.Text FolioLattice.Data FolioLattice.Relational FolioLattice.Store
open FolioLattice.Effects (except_bind_ok)

variable {F : Type}

/-! ### The record read back -/

theorem joinPairs_pyStr (value : String) : joinPairs (pyStr value) = pyStr value :=
  joinPairs_chars value.toList

def AuditEvent.withDetails (event : AuditEvent F) (details : Json F) : AuditEvent F :=
  { event with details := details }

/-- The event as its row gives it back. -/
def AuditEvent.stored (event : AuditEvent F) : AuditEvent F :=
  event.withDetails event.details.sortKeys.reread

def eventKeys : List PyStr :=
  ["id", "occurred_at", "tenant_id", "actor_id", "actor_type", "request_id", "correlation_id",
    "trace_id", "span_id", "action", "resource_type", "resource_id", "outcome", "reason",
    "policy_version", "source", "details", "retention_class", "expires_at", "legal_hold"].map pyStr

theorem eventKeys_distinct : eventKeys.Nodup := by
  decide

theorem eventKeys_joined : ∀ key ∈ eventKeys, joinPairs key = key := by
  intro key member
  obtain ⟨name, _, same⟩ := List.mem_map.mp member
  rw [← same]
  exact joinPairs_pyStr name

theorem toJson_wellKeyed {event : AuditEvent F} (keyed : event.details.WellKeyed) :
    event.toJson.WellKeyed := by
  refine ⟨eventKeys_distinct, eventKeys_joined, ?_⟩
  cases resource : event.resourceId <;>
    simp [WellKeyedEntries, Json.WellKeyed, text, keyed]

theorem toJson_reread {event : AuditEvent F} (keyed : event.details.WellKeyed) :
    event.toJson.reread = (event.withDetails event.details.reread).toJson := by
  unfold AuditEvent.toJson AuditEvent.withDetails
  rw [reread_obj (toJson_wellKeyed keyed)]
  cases resource : event.resourceId <;> simp [Json.reread, text, joinPairs_pyStr]

theorem toJson_sortKeys (event : AuditEvent F) :
    (event.withDetails event.details.sortKeys).toJson.sortKeys = event.toJson.sortKeys := by
  cases resource : event.resourceId <;>
    simp [AuditEvent.withDetails, AuditEvent.toJson, Json.sortKeys, sortEntries, text, resource,
      Json.sortKeys_sortKeys]

variable [FloatFormat F]

/-- The row is hashed to the hash of the event it was made from. -/
theorem integrityHash_stored (settings : Settings) {event : AuditEvent F}
    (keyed : event.details.WellKeyed) :
    integrityHash settings event.stored = integrityHash settings event := by
  have sortedKeyed := Json.sortKeys_wellKeyed keyed
  have sortedRecord : (event.withDetails event.details.sortKeys).toJson.WellKeyed :=
    toJson_wellKeyed sortedKeyed
  have record : event.stored.toJson = (event.withDetails event.details.sortKeys).toJson.reread :=
    by
    rw [toJson_reread sortedKeyed]
    rfl
  have printed : event.stored.toJson.sortKeys.print = event.toJson.sortKeys.print := by
    rw [record, Json.sortKeys_reread sortedRecord,
      Json.print_reread (Json.sortKeys_wellKeyed sortedRecord), toJson_sortKeys]
  have encodable : event.stored.toJson.encodable true = event.toJson.encodable true := by
    rw [toJson_encodable, toJson_encodable]
    exact (Json.encodable_reread true sortedKeyed).trans (Json.encodable_sortKeys true event.details)
  unfold integrityHash canonicalEvent dumps
  rw [printed, encodable]

theorem auditRow_row {event : AuditEvent F} {detailsJson : List Char}
    (dumped : dumps true event.details = some detailsJson) (hash : String) :
    auditRow (event.row (String.ofList detailsJson) hash) = .ok event.stored := by
  have read : readDetails (String.ofList detailsJson) = .ok event.details.sortKeys.reread := by
    unfold readDetails
    rw [String.toList_ofList, loads_dumps dumped]
  have hold : (decide ((if event.legalHold then (1 : Int) else 0) ≠ 0)) = event.legalHold := by
    cases event.legalHold <;> rfl
  unfold auditRow AuditEvent.row
  simp only [read, hold]
  rfl

/-! ### What a built event is -/

theorem safeValue_same {value value' : Json F} (safe : safeValue value = .ok value') :
    value' = value ∧ value.WellKeyed := by
  unfold safeValue at safe
  split at safe
  · cases safe
    exact ⟨rfl, trivial⟩
  · split at safe
    · cases safe
    · cases safe
      exact ⟨rfl, trivial⟩
  · split at safe
    · cases safe
    · cases safe
      exact ⟨rfl, trivial⟩
  · cases safe
  · split at safe
    · cases safe
    · cases safe
      exact ⟨rfl, trivial⟩
  · cases safe

/-- `safe_details` returns the mapping as it is, with keys of the allowlist and scalars. -/
theorem safeEntries_ok {entries safe : List (PyStr × Json F)} (done : safeEntries entries = .ok safe) :
    safe = entries ∧ ∀ e ∈ entries, e.1 ∈ auditDetailKeys.map pyStr ∧ safeValue e.2 = .ok e.2 := by
  induction entries generalizing safe with
  | nil =>
      cases done
      exact ⟨rfl, fun e member => absurd member List.not_mem_nil⟩
  | cons entry rest ih =>
      obtain ⟨key, value⟩ := entry
      unfold safeEntries at done
      split at done
      · cases done
      · rename_i allowed
        obtain ⟨value', valueSafe, done⟩ := except_bind_ok done
        obtain ⟨rest', restSafe, done⟩ := except_bind_ok done
        cases done
        obtain ⟨sameRest, others⟩ := ih restSafe
        have sameValue := (safeValue_same valueSafe).1
        rw [sameValue] at valueSafe ⊢
        rw [sameRest]
        refine ⟨rfl, ?_⟩
        rintro e (_ | ⟨_, member⟩)
        · exact ⟨not_not.mp allowed, valueSafe⟩
        · exact others e member

theorem safeDetails_ok {details : Option (DetailsArgument F)} {safe : List (PyStr × Json F)}
    (done : safeDetails (details.map (·.entries)) = .ok safe) :
    (safe.map (·.1)).Nodup ∧ safe.length ≤ auditDetailKeys.length ∧
      ∀ e ∈ safe, e.1 ∈ auditDetailKeys.map pyStr ∧ safeValue e.2 = .ok e.2 := by
  cases details with
  | none =>
      cases done
      exact ⟨List.nodup_nil, Nat.zero_le _, fun e member => absurd member List.not_mem_nil⟩
  | some argument =>
      unfold safeDetails at done
      simp only [Option.map_some] at done
      split at done
      · cases done
      · rename_i short
        obtain ⟨same, entries⟩ := safeEntries_ok done
        rw [same]
        exact ⟨argument.distinct, Nat.le_of_not_lt short, entries⟩

theorem detailKeys_joined : ∀ key ∈ auditDetailKeys.map pyStr, joinPairs key = key := by
  intro key member
  obtain ⟨name, _, same⟩ := List.mem_map.mp member
  rw [← same]
  exact joinPairs_pyStr name

theorem safe_wellKeyed {safe : List (PyStr × Json F)} (distinct : (safe.map (·.1)).Nodup)
    (entries : ∀ e ∈ safe, e.1 ∈ auditDetailKeys.map pyStr ∧ safeValue e.2 = .ok e.2) :
    (Json.obj safe).WellKeyed := by
  refine ⟨distinct, ?_, ?_⟩
  · intro key member
    obtain ⟨e, inside, same⟩ := List.mem_map.mp member
    rw [← same]
    exact detailKeys_joined _ (entries e inside).1
  · rw [wellKeyedEntries_iff]
    exact fun e member => (safeValue_same (entries e member).2).2

/-- The texts of an event outside its details. -/
def AuditEvent.texts (event : AuditEvent F) : List String :=
  [event.id, event.occurredAt, event.tenantId, event.actorId, event.actorType, event.requestId,
    event.correlationId, event.traceId, event.spanId, event.action, event.resourceType,
    event.outcome, event.reason, event.policyVersion, event.source, event.retentionClass,
    event.expiresAt] ++ event.resourceId.toList

/-- What `_build_audit_event` returns: a hashed event of bounded texts, with the
details that `safe_details` lets through. -/
structure Built (settings : Settings) (sealedEvent : SealedEvent F) : Prop where
  details : ∃ safe, sealedEvent.event.details = .obj safe ∧ (safe.map (·.1)).Nodup ∧
    safe.length ≤ auditDetailKeys.length ∧
    ∀ e ∈ safe, e.1 ∈ auditDetailKeys.map pyStr ∧ safeValue e.2 = .ok e.2
  hash : integrityHash settings sealedEvent.event = some sealedEvent.integrityHash
  id : ∃ uuid, sealedEvent.event.id = newId "audit" uuid
  occurredAt : ∃ now : Timestamp, sealedEvent.event.occurredAt = now.isoformat
  short : ∀ value ∈ sealedEvent.event.texts, value.length ≤ 255

theorem Built.keyed {settings : Settings} {sealedEvent : SealedEvent F}
    (built : Built settings sealedEvent) : sealedEvent.event.details.WellKeyed := by
  obtain ⟨safe, same, distinct, _, entries⟩ := built.details
  rw [same]
  exact safe_wellKeyed distinct entries

theorem hashOrRaise_ok {settings : Settings} {event : AuditEvent F} {hash : String}
    (done : hashOrRaise settings event = .ok hash) : integrityHash settings event = some hash := by
  unfold hashOrRaise at done
  split at done
  · cases done
    assumption
  · cases done

theorem legacyId_length (settings : Settings) (label : String) (length : Nat) (eventId : String) :
    (legacyId settings label length eventId).length ≤ length := by
  unfold legacyId
  rw [String.length_ofList]
  exact List.length_take_le _ _

theorem expiryFor_ok {retentionClass expiry : String} {current : Timestamp}
    (done : expiryFor retentionClass current = .ok expiry) :
    retentionClass.length ≤ 255 ∧ expiry.length ≤ 255 := by
  unfold expiryFor at done
  split at done
  · cases done
  · rename_i days retained
    split at done
    · cases done
    · cases done
      rw [Timestamp.isoformat_length]
      refine ⟨?_, Nat.le_of_ble_eq_true rfl⟩
      unfold auditRetentionDays at retained
      split at retained
      · rename_i same
        rw [same]
        decide
      · split at retained
        · rename_i same
          rw [same]
          decide
        · split at retained
          · rename_i same
            rw [same]
            decide
          · cases retained

/-- What `_build_audit_event` needs of its arguments and of its clock. -/
structure Admitted (draw : EventDraw) (request : AuditRequest F) : Prop where
  tenantId : IsToken request.tenantId
  actorId : IsToken request.actorId
  action : IsToken request.action
  outcome : IsToken request.outcome
  resourceType : IsToken request.resourceType
  policyVersion : IsToken request.policyVersion
  source : IsToken request.source
  reason : IsToken request.reason
  resourceId : ∀ value, request.resourceId = some value → IsToken value
  requestId : IsToken (orElse request.requestId (newId "req" draw.requestId))
  correlationId : IsToken (orElse request.correlationId
    (orElse request.requestId (newId "req" draw.requestId)))
  details : ∃ safe, safeDetails (request.details.map (·.entries)) = .ok safe
  expiry : ∃ expiry, expiryFor request.retentionClass draw.current = .ok expiry

/-- The event that a request becomes. -/
def AuditRequest.sealing (settings : Settings) (draw : EventDraw) (request : AuditRequest F)
    (safe : List (PyStr × Json F)) (expiresAt : String) : AuditEvent F where
  id := newId "audit" draw.eventId
  occurredAt := draw.now.isoformat
  tenantId := request.tenantId
  actorId := request.actorId
  actorType := "actor"
  requestId := orElse request.requestId (newId "req" draw.requestId)
  correlationId := orElse request.correlationId
    (orElse request.requestId (newId "req" draw.requestId))
  traceId := (draw.context.map (·.trace.hex)).getD
    (legacyTraceId settings (newId "audit" draw.eventId))
  spanId := (draw.context.map (·.spanId)).getD
    (legacySpanId settings (newId "audit" draw.eventId))
  action := request.action
  resourceType := request.resourceType
  resourceId := request.resourceId
  outcome := request.outcome
  reason := request.reason
  policyVersion := request.policyVersion
  source := request.source
  details := .obj safe
  retentionClass := request.retentionClass
  expiresAt := expiresAt
  legalHold := false

/-- All that a call of `_build_audit_event` can do. -/
structure Sealing (settings : Settings) (draw : EventDraw) (request : AuditRequest F)
    (sealedEvent : SealedEvent F) (safe : List (PyStr × Json F)) (expiresAt : String) : Prop where
  admitted : Admitted draw request
  details : safeDetails (request.details.map (·.entries)) = .ok safe
  expiry : expiryFor request.retentionClass draw.current = .ok expiresAt
  event : sealedEvent.event = request.sealing settings draw safe expiresAt
  hash : hashOrRaise settings sealedEvent.event = .ok sealedEvent.integrityHash

theorem buildAuditEvent_cases {settings : Settings} {draw : EventDraw} {request : AuditRequest F}
    {sealedEvent : SealedEvent F} (done : buildAuditEvent settings draw request = .ok sealedEvent) :
    ∃ safe expiresAt, Sealing settings draw request sealedEvent safe expiresAt := by
  unfold buildAuditEvent at done
  obtain ⟨_, tenantId, done⟩ := except_bind_ok done
  obtain ⟨_, actorId, done⟩ := except_bind_ok done
  obtain ⟨_, action, done⟩ := except_bind_ok done
  obtain ⟨_, outcome, done⟩ := except_bind_ok done
  obtain ⟨_, resourceType, done⟩ := except_bind_ok done
  obtain ⟨_, policyVersion, done⟩ := except_bind_ok done
  obtain ⟨_, source, done⟩ := except_bind_ok done
  obtain ⟨_, reason, done⟩ := except_bind_ok done
  obtain ⟨_, resourceId, done⟩ := except_bind_ok done
  obtain ⟨_, requestId, done⟩ := except_bind_ok done
  obtain ⟨_, correlationId, done⟩ := except_bind_ok done
  obtain ⟨safe, isSafe, done⟩ := except_bind_ok done
  obtain ⟨expiresAt, expiry, done⟩ := except_bind_ok done
  obtain ⟨hash, hashed, done⟩ := except_bind_ok done
  cases done
  have token : ∀ {field value : String}, validateToken field value = .ok () → IsToken value :=
    validateToken_ok_iff.mp
  refine ⟨safe, expiresAt, ⟨token tenantId, token actorId, token action, token outcome,
    token resourceType, token policyVersion, token source, token reason, ?_, token requestId,
    token correlationId, ⟨safe, isSafe⟩, ⟨expiresAt, expiry⟩⟩, isSafe, expiry, rfl, hashed⟩
  intro value given
  rw [given] at resourceId
  exact token resourceId

/-- None of the texts is long. -/
theorem Admitted.short (settings : Settings) {draw : EventDraw} {request : AuditRequest F}
    (admitted : Admitted draw request) {expiresAt : String}
    (expiry : expiryFor request.retentionClass draw.current = .ok expiresAt)
    (safe : List (PyStr × Json F)) :
    ∀ value ∈ (request.sealing settings draw safe expiresAt).texts, value.length ≤ 255 := by
  obtain ⟨retention, expiryShort⟩ := expiryFor_ok expiry
  have idShort : (newId "audit" draw.eventId).length ≤ 255 := by
    rw [newId_length]
    decide
  have clockShort : draw.now.isoformat.length ≤ 255 := by
    rw [Timestamp.isoformat_length]
    decide
  have traceShort : ((draw.context.map (·.trace.hex)).getD
      (legacyTraceId settings (newId "audit" draw.eventId))).length ≤ 255 := by
    cases draw.context with
    | none => exact (legacyId_length _ _ _ _).trans (by decide)
    | some context =>
        change context.trace.hex.length ≤ 255
        rw [context.trace.isHex.1]
        decide
  have spanShort : ((draw.context.map (·.spanId)).getD
      (legacySpanId settings (newId "audit" draw.eventId))).length ≤ 255 := by
    cases draw.context with
    | none => exact (legacyId_length _ _ _ _).trans (by decide)
    | some context =>
        change context.spanId.length ≤ 255
        unfold TraceContext.spanId
        rw [String.length_ofList]
        exact (List.length_take_le _ _).trans (by decide)
  intro value member
  unfold AuditEvent.texts at member
  rcases List.mem_append.mp member with fixed | optional
  · simp only [List.mem_cons, List.not_mem_nil, or_false] at fixed
    rcases fixed with same | same | same | same | same | same | same | same | same | same | same |
      same | same | same | same | same | same <;> rw [same]
    · exact idShort
    · exact clockShort
    · exact admitted.tenantId.2.1
    · exact admitted.actorId.2.1
    · exact (by decide : "actor".length ≤ 255)
    · exact admitted.requestId.2.1
    · exact admitted.correlationId.2.1
    · exact traceShort
    · exact spanShort
    · exact admitted.action.2.1
    · exact admitted.resourceType.2.1
    · exact admitted.outcome.2.1
    · exact admitted.reason.2.1
    · exact admitted.policyVersion.2.1
    · exact admitted.source.2.1
    · exact retention
    · exact expiryShort
  · exact (admitted.resourceId value (Option.mem_toList.mp optional)).2.1

theorem buildAuditEvent_ok {settings : Settings} {draw : EventDraw} {request : AuditRequest F}
    {sealedEvent : SealedEvent F} (done : buildAuditEvent settings draw request = .ok sealedEvent) :
    Built settings sealedEvent ∧ sealedEvent.event.id = newId "audit" draw.eventId ∧
      sealedEvent.event.occurredAt = draw.now.isoformat ∧
      sealedEvent.event.tenantId = request.tenantId ∧
      sealedEvent.event.action = request.action ∧
      sealedEvent.event.resourceId = request.resourceId := by
  obtain ⟨safe, expiresAt, sealing⟩ := buildAuditEvent_cases done
  obtain ⟨distinct, few, entries⟩ := safeDetails_ok sealing.details
  have short := sealing.admitted.short settings sealing.expiry safe
  have hash := hashOrRaise_ok sealing.hash
  rw [← sealing.event] at short
  refine ⟨⟨⟨safe, ?_, distinct, few, entries⟩, hash, ⟨draw.eventId, ?_⟩, ⟨draw.now, ?_⟩, short⟩,
    ?_, ?_, ?_, ?_, ?_⟩ <;> rw [sealing.event] <;> rfl

/-! ### Events that can be recorded -/

theorem safeValue_encodable {value : Json F} (safe : safeValue value = .ok value) :
    value.encodable true = true := by
  unfold safeValue at safe
  split at safe
  · rfl
  · rename_i n
    split at safe
    · cases safe
    · rename_i bounded
      have digits : (Nat.toDigits 10 n.natAbs).length ≤ 10 :=
        (Nat.length_toDigits_le_iff (by decide) (by decide)).mpr (by omega)
      exact decide_eq_true (digits.trans (by decide))
  · rfl
  · cases safe
  · rfl
  · cases safe

/-- Bounded scalars always print. -/
theorem safeDetails_encodable {details : Option (DetailsArgument F)} {safe : List (PyStr × Json F)}
    (done : safeDetails (details.map (·.entries)) = .ok safe) :
    (Json.obj safe).encodable true = true := by
  rw [Json.encodable, encodableEntries_iff]
  intro entry member
  exact safeValue_encodable ((safeDetails_ok done).2.2 entry member).2

theorem hashOrRaise_encodable (settings : Settings) {event : AuditEvent F}
    (encodable : event.details.encodable true = true) (e : Failure) :
    hashOrRaise settings event ≠ .error e := by
  have record : event.toJson.encodable true = true := by
    rw [toJson_encodable]
    exact encodable
  unfold hashOrRaise integrityHash canonicalEvent dumps
  rw [if_pos record]
  intro impossible
  cases impossible

theorem Admitted.built (settings : Settings) {draw : EventDraw} {request : AuditRequest F}
    (admitted : Admitted draw request) :
    ∃ sealedEvent, buildAuditEvent settings draw request = .ok sealedEvent := by
  obtain ⟨safe, isSafe⟩ := admitted.details
  obtain ⟨expiresAt, isExpiry⟩ := admitted.expiry
  have token : ∀ {field value : String}, IsToken value → validateToken field value = .ok () :=
    validateToken_ok_iff.mpr
  have resource : request.resourceId.forM (validateToken "resource_id") = .ok () := by
    cases given : request.resourceId with
    | none => rfl
    | some value => exact token (admitted.resourceId value given)
  have encodable := safeDetails_encodable isSafe
  unfold buildAuditEvent
  simp only [token admitted.tenantId, token admitted.actorId, token admitted.action,
    token admitted.outcome, token admitted.resourceType, token admitted.policyVersion,
    token admitted.source, token admitted.reason, resource, token admitted.requestId,
    token admitted.correlationId, isSafe, isExpiry, bind, Except.bind]
  split
  · rename_i failed
    exact absurd failed (hashOrRaise_encodable settings encodable _)
  · exact ⟨_, rfl⟩

theorem ensureTenant_valid {db : Database} {tenantId : String} (valid : ValidText tenantId maxNameLength)
    (now : Timestamp) :
    ∃ tenants, ensureTenant db tenantId now = .ok { db with tenants := tenants } ∧
      tenants.any (fun tenant => tenant.id = tenantId) = true := by
  unfold ensureTenant
  rw [validateText_of_valid valid]
  by_cases known : db.tenants.any (fun t => t.id = tenantId) = true
  · exact ⟨db.tenants, if_pos known, known⟩
  · refine ⟨_, if_neg known, ?_⟩
    rw [List.any_append]
    simp

/-- A built event of a known tenant is stored, when its id is new. -/
theorem insertAuditEvent_stores {settings : Settings} {db : Database} {sealedEvent : SealedEvent F}
    (built : Built settings sealedEvent)
    (known : db.tenants.any (fun tenant => tenant.id = sealedEvent.event.tenantId) = true)
    (fresh : ∀ old ∈ db.auditEvents, old.id ≠ sealedEvent.event.id) :
    ∃ detailsJson, insertAuditEvent sealedEvent db = .ok { db with
      auditEvents := db.auditEvents ++
        [sealedEvent.event.row detailsJson sealedEvent.integrityHash] } := by
  obtain ⟨safe, isDetails, _, _, entries⟩ := built.details
  have encodable : sealedEvent.event.details.encodable true = true := by
    rw [isDetails, Json.encodable, encodableEntries_iff]
    exact fun entry member => safeValue_encodable (entries entry member).2
  have freshRow : ∀ old ∈ db.auditEvents,
      decide ((sealedEvent.event.row (String.ofList sealedEvent.event.details.sortKeys.print)
        sealedEvent.integrityHash).id = old.id) = false :=
    fun old member => decide_eq_false (fun same => fresh old member same.symm)
  refine ⟨String.ofList sealedEvent.event.details.sortKeys.print, ?_⟩
  unfold insertAuditEvent dumps
  rw [if_pos encodable]
  dsimp only
  rw [if_pos known, insertUnique_of_fresh freshRow]
  rfl

/-! ### The stored row -/

theorem sealedRow_row {settings : Settings} {sealedEvent : SealedEvent F}
    (built : Built settings sealedEvent) {detailsJson : List Char}
    (dumped : dumps true sealedEvent.event.details = some detailsJson) :
    sealedRow settings
        (sealedEvent.event.row (String.ofList detailsJson) sealedEvent.integrityHash) =
      .ok ⟨sealedEvent.event.stored, sealedEvent.integrityHash⟩ := by
  have hashed : hashOrRaise settings sealedEvent.event.stored = .ok sealedEvent.integrityHash := by
    unfold hashOrRaise
    rw [integrityHash_stored settings built.keyed, built.hash]
  unfold sealedRow verifiedAuditRow
  rw [auditRow_row dumped]
  simp only [bind, Except.bind, hashed, AuditEvent.row, if_true]

/-! ### The line of an event in an export -/

theorem safeValue_print {value : Json F} (safe : safeValue value = .ok value) :
    value.sortKeys.print.length ≤ 3062 := by
  unfold safeValue at safe
  split at safe
  · rename_i value
    cases value <;> exact Nat.le_of_ble_eq_true rfl
  · rename_i n
    split at safe
    · cases safe
    · rename_i bounded
      have digits : (Nat.toDigits 10 n.natAbs).length ≤ 10 :=
        (Nat.length_toDigits_le_iff (by decide) (by decide)).mpr (by omega)
      have sign : (if n < 0 then ['-'] else []).length ≤ 1 := by
        split <;> exact Nat.le_of_ble_eq_true rfl
      change ((if n < 0 then ['-'] else []) ++ Nat.toDigits 10 n.natAbs).length ≤ 3062
      rw [List.length_append]
      omega
  · rename_i x
    exact (FloatFormat.repr_length x).trans (by decide)
  · cases safe
  · rename_i text
    split at safe
    · cases safe
    · rename_i bounded
      have printed := printString_length text
      change (printString text).length ≤ 3062
      omega
  · cases safe

theorem key_print (names : List String) (short : ∀ name ∈ names, name.length ≤ 16) {key : PyStr}
    (member : key ∈ names.map pyStr) : (printString key).length ≤ 194 := by
  obtain ⟨name, inside, same⟩ := List.mem_map.mp member
  have printed := printString_length key
  have length : key.length = name.length := by
    rw [← same]
    unfold pyStr
    rw [List.length_map, String.length_toList]
  have bound := short name inside
  omega

theorem text_print {value : String} (short : value.length ≤ 255) :
    (text value : Json F).sortKeys.print.length ≤ 3062 := by
  have printed := printString_length (pyStr value)
  have length : (pyStr value).length = value.length := by
    unfold pyStr
    rw [List.length_map, String.length_toList]
  change (printString (pyStr value)).length ≤ 3062
  omega

theorem Built.details_print {settings : Settings} {sealedEvent : SealedEvent F}
    (built : Built settings sealedEvent) :
    sealedEvent.event.stored.details.sortKeys.print.length ≤ 39000 := by
  have keyed := built.keyed
  obtain ⟨safe, same, _, few, entries⟩ := built.details
  have printed : sealedEvent.event.stored.details.sortKeys.print =
      sealedEvent.event.details.sortKeys.print := by
    change sealedEvent.event.details.sortKeys.reread.sortKeys.print = _
    rw [Json.sortKeys_reread (Json.sortKeys_wellKeyed keyed), Json.sortKeys_sortKeys,
      Json.print_reread (Json.sortKeys_wellKeyed keyed)]
  have bound : (Json.obj safe).sortKeys.print.length ≤ safe.length * 3300 + 2 := by
    apply print_obj_length
    intro e member
    have key := key_print auditDetailKeys (by decide) (entries e member).1
    have value := safeValue_print (entries e member).2
    omega
  have count : safe.length ≤ 11 := few
  rw [printed, same]
  omega

/-- A bound on what is printed for the value under a key of an event. -/
def valueBound (key : PyStr) : Nat := if key = pyStr "details" then 39000 else 3062

theorem Built.texts_print {settings : Settings} {sealedEvent : SealedEvent F}
    (built : Built settings sealedEvent) {value : String}
    (member : value ∈ sealedEvent.event.texts) :
    (text value : Json F).sortKeys.print.length ≤ 3062 :=
  text_print (built.short value member)

theorem Built.entry_print {settings : Settings} {sealedEvent : SealedEvent F}
    (built : Built settings sealedEvent) {entries : List (PyStr × Json F)}
    (isRecord : sealedEvent.event.stored.toJson = .obj entries) :
    entries.map (·.1) = eventKeys ∧
      ∀ e ∈ entries, e.2.sortKeys.print.length ≤ valueBound e.1 := by
  cases isRecord
  refine ⟨rfl, ?_⟩
  have texts : ∀ key, ∀ value ∈ sealedEvent.event.texts,
      (text value : Json F).sortKeys.print.length ≤ valueBound key := by
    intro key value member
    have printed := built.texts_print member
    unfold valueBound
    split
    · omega
    · exact printed
  have resource : ((sealedEvent.event.resourceId.map text).getD .null : Json F).sortKeys.print.length ≤
      valueBound (pyStr "resource_id") := by
    cases given : sealedEvent.event.resourceId with
    | none => exact Nat.le_of_ble_eq_true rfl
    | some value =>
        apply texts
        unfold AuditEvent.texts
        rw [given]
        exact List.mem_append_right _ (List.mem_singleton_self _)
  have hold : (Json.bool sealedEvent.event.legalHold : Json F).sortKeys.print.length ≤
      valueBound (pyStr "legal_hold") := by
    cases sealedEvent.event.legalHold <;> exact Nat.le_of_ble_eq_true rfl
  have listed : ∀ value ∈ [sealedEvent.event.id, sealedEvent.event.occurredAt,
      sealedEvent.event.tenantId, sealedEvent.event.actorId, sealedEvent.event.actorType,
      sealedEvent.event.requestId, sealedEvent.event.correlationId, sealedEvent.event.traceId,
      sealedEvent.event.spanId, sealedEvent.event.action, sealedEvent.event.resourceType,
      sealedEvent.event.outcome, sealedEvent.event.reason, sealedEvent.event.policyVersion,
      sealedEvent.event.source, sealedEvent.event.retentionClass, sealedEvent.event.expiresAt],
      ∀ key, (text value : Json F).sortKeys.print.length ≤ valueBound key :=
    fun value member key => texts key value (List.mem_append_left _ member)
  simp only [List.forall_mem_cons, List.not_mem_nil, false_imp_iff, implies_true, and_true] at listed
  obtain ⟨id, occurredAt, tenantId, actorId, actorType, requestId, correlationId, traceId, spanId,
    action, resourceType, outcome, reason, policyVersion, source, retentionClass, expiresAt⟩ := listed
  simp only [List.forall_mem_cons, List.not_mem_nil, false_imp_iff, implies_true, and_true]
  exact ⟨id _, occurredAt _, tenantId _, actorId _, actorType _, requestId _, correlationId _,
    traceId _, spanId _, action _, resourceType _, resource, outcome _, reason _, policyVersion _,
    source _, built.details_print, retentionClass _, expiresAt _, hold⟩

/-- No event takes more than half of what an export may hold. -/
theorem exportLine_stored {settings : Settings} {sealedEvent : SealedEvent F}
    (built : Built settings sealedEvent) :
    ∃ line, exportLine (⟨sealedEvent.event.stored, sealedEvent.integrityHash⟩ : SealedEvent F) =
      .ok line ∧ 2 * line.length ≤ auditMaxExportBytes := by
  obtain ⟨entries, isRecord⟩ : ∃ entries, sealedEvent.event.stored.toJson = .obj entries := ⟨_, rfl⟩
  obtain ⟨keys, values⟩ := built.entry_print isRecord
  have hashShort : sealedEvent.integrityHash.length ≤ 255 := by
    obtain ⟨text, _, hash⟩ := Option.map_eq_some_iff.mp built.hash
    rw [← hash, (settings.sha256 (asciiBytes text)).isHex.1]
    decide
  have record : (⟨sealedEvent.event.stored, sealedEvent.integrityHash⟩ : SealedEvent F).toJson =
      .obj (entries ++ [(pyStr "integrity_hash", text sealedEvent.integrityHash)]) := by
    unfold SealedEvent.toJson
    rw [isRecord]
  have encodable : (Json.obj (entries ++
      [(pyStr "integrity_hash", text sealedEvent.integrityHash)])).encodable true = true := by
    have hashed := built.hash
    rw [← integrityHash_stored settings built.keyed] at hashed
    obtain ⟨line, dumped, _⟩ := Option.map_eq_some_iff.mp hashed
    unfold canonicalEvent dumps at dumped
    split at dumped
    · rename_i recordEncodable
      rw [isRecord, Json.encodable, encodableEntries_iff] at recordEncodable
      rw [Json.encodable, encodableEntries_iff]
      intro e member
      rcases List.mem_append.mp member with old | new
      · exact recordEncodable e old
      · rw [List.mem_singleton.mp new]
        rfl
    · cases dumped
  have each : ∀ e ∈ entries ++ [(pyStr "integrity_hash", text sealedEvent.integrityHash)],
      (printString e.1).length + 2 + e.2.sortKeys.print.length ≤ 196 + valueBound e.1 := by
    intro e member
    rcases List.mem_append.mp member with old | new
    · have inside : e.1 ∈ eventKeys := by
        rw [← keys]
        exact List.mem_map_of_mem old
      have key := key_print _ (by decide) inside
      have value := values e old
      omega
    · rw [List.mem_singleton.mp new]
      have key : (printString (pyStr "integrity_hash")).length ≤ 194 :=
        key_print ["integrity_hash"] (by decide) (List.mem_singleton_self _)
      have value : (text sealedEvent.integrityHash : Json F).sortKeys.print.length ≤
          valueBound (pyStr "integrity_hash") :=
        (text_print hashShort).trans (by decide)
      change (printString (pyStr "integrity_hash")).length + 2 +
        (text sealedEvent.integrityHash : Json F).sortKeys.print.length ≤
          196 + valueBound (pyStr "integrity_hash")
      omega
  have printed := print_obj_length_le
    (entries ++ [(pyStr "integrity_hash", text sealedEvent.integrityHash)])
  have total := (List.sum_le_sum each).trans_eq (by
    show _ = (eventKeys.map (fun key => 196 + valueBound key)).sum + 3258
    rw [← keys, List.map_append, List.sum_append, List.map_map]
    rfl)
  have bound : (eventKeys.map (fun key => 196 + valueBound key)).sum = 101098 := by
    decide
  unfold exportLine dumps
  rw [record, if_pos encodable]
  refine ⟨_, rfl, ?_⟩
  rw [List.length_append, List.length_singleton]
  have limit : auditMaxExportBytes = 1048576 := rfl
  omega

end FolioLattice.Audit
