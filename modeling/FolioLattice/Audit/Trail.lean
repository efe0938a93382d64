/-
The calls on the audit trail: record, list, export, hold and purge events.
-/

import FolioLattice.Audit.Event
import FolioLattice.Store.Artifacts
import FolioLattice.Store.Reads

namespace FolioLattice.Audit

open FolioLattice.Text FolioLattice.Data FolioLattice.Relational FolioLattice.Store

def auditMaxEventsPerExport : Nat := 10000
def auditMaxExportBytes : Nat := 1 * 1024 * 1024

/-- `AUDIT_RETENTION_DAYS` -/
def auditRetentionDays (retentionClass : String) : Option Nat :=
  if retentionClass = "security" then some 365
  else if retentionClass = "request" then some 90
  else if retentionClass = "debug" then some 30
  else none

def expiryFor (retentionClass : String) (current : Timestamp) : Except Failure String :=
  match auditRetentionDays retentionClass with
  | none => .error (.folio "audit retention class is invalid")
  | some days =>
      match current.addDays days with
      | none => .error .builtin
      | some expiry => .ok expiry.isoformat

/-! ### Building an event -/

/-- A mapping argument has each of its keys once. -/
structure DetailsArgument (F : Type) where
  entries : List (PyStr × Json F)
  distinct : (entries.map (·.1)).Nodup

structure AuditRequest (F : Type) where
  tenantId : String
  actorId : String
  action : String
  outcome : String
  requestId : Option String
  correlationId : Option String
  resourceType : String
  resourceId : Option String
  reason : String
  policyVersion : String
  source : String
  details : Option (DetailsArgument F)
  retentionClass : String

/-- What the server sets while it handles a request: two uuids, the second cut short. -/
structure TraceContext where
  trace : Uuid
  span : Uuid

def TraceContext.spanId (context : TraceContext) : String :=
  String.ofList (context.span.hex.toList.take 16)

/-- What `_build_audit_event` draws: ids, the request's context and the clock twice. -/
structure EventDraw where
  eventId : Uuid
  requestId : Uuid
  context : Option TraceContext
  current : Timestamp
  now : Timestamp

structure SealedEvent (F : Type) where
  event : AuditEvent F
  integrityHash : String

section Trail

variable {F : Type} [FloatFormat F]

/-- `value or default` of an optional text. -/
def orElse (value : Option String) (default : String) : String :=
  (value.filter (fun text => text ≠ "")).getD default

theorem orElse_some {text : String} (some_ : text ≠ "") (default : String) :
    orElse (some text) default = text := by
  unfold orElse
  rw [Option.filter_some, if_pos (decide_eq_true some_)]
  rfl

def buildAuditEvent (settings : Settings) (draw : EventDraw) (request : AuditRequest F) :
    Except Failure (SealedEvent F) := do
  validateToken "tenant_id" request.tenantId
  validateToken "actor_id" request.actorId
  validateToken "action" request.action
  validateToken "outcome" request.outcome
  validateToken "resource_type" request.resourceType
  validateToken "policy_version" request.policyVersion
  validateToken "source" request.source
  validateToken "reason" request.reason
  request.resourceId.forM (validateToken "resource_id")
  let requestId := orElse request.requestId (newId "req" draw.requestId)
  validateToken "request_id" requestId
  let correlationId := orElse request.correlationId requestId
  validateToken "correlation_id" correlationId
  let safe ← safeDetails (request.details.map (·.entries))
  let eventId := newId "audit" draw.eventId
  let traceId := (draw.context.map (·.trace.hex)).getD (legacyTraceId settings eventId)
  let spanId := (draw.context.map (·.spanId)).getD (legacySpanId settings eventId)
  let expiresAt ← expiryFor request.retentionClass draw.current
  let event : AuditEvent F := {
    id := eventId
    occurredAt := draw.now.isoformat
    tenantId := request.tenantId
    actorId := request.actorId
    actorType := "actor"
    requestId := requestId
    correlationId := correlationId
    traceId := traceId
    spanId := spanId
    action := request.action
    resourceType := request.resourceType
    resourceId := request.resourceId
    outcome := request.outcome
    reason := request.reason
    policyVersion := request.policyVersion
    source := request.source
    details := .obj safe
    retentionClass := request.retentionClass
    expiresAt := expiresAt
    legalHold := false }
  let hash ← hashOrRaise settings event
  .ok ⟨event, hash⟩

/-- `_insert_audit_event`: ids are the primary key, the tenant a foreign key. -/
def insertAuditEvent (sealedEvent : SealedEvent F) (db : Database) : Except Failure Database :=
  match dumps true sealedEvent.event.details with
  | none => .error (.json .digits)
  | some detailsJson => do
      if db.tenants.any (fun tenant => tenant.id = sealedEvent.event.tenantId) then
        let events ← insertUnique (fun new old => new.id = old.id)
          (sealedEvent.event.row (String.ofList detailsJson) sealedEvent.integrityHash) db.auditEvents
        .ok { db with auditEvents := events }
      else .error .integrity

/-- The transaction of `record_audit_event`, once the event is built. -/
def commitAuditEvent (tenantAt : Timestamp) (sealedEvent : SealedEvent F) (db : Database) :
    Except Failure Database := do
  let db ← ensureTenant db sealedEvent.event.tenantId tenantAt
  insertAuditEvent sealedEvent db

def recordAuditEvent (settings : Settings) (draw : EventDraw) (tenantAt : Timestamp)
    (request : AuditRequest F) (db : Database) : Except Failure (Database × SealedEvent F) := do
  let sealedEvent ← buildAuditEvent settings draw request
  let db ← commitAuditEvent tenantAt sealedEvent db
  .ok (db, sealedEvent)

/-! ### Selecting events -/

/-- `value.replace("Z", "+00:00")` -/
def replaceZulu (value : List Char) : List Char :=
  value.flatMap (fun c => if c = 'Z' then "+00:00".toList else [c])

/-- One bound of a window: its instant, and its text in UTC. -/
def auditBound (field : String) : Option String → Except Failure (Option (Int × Timestamp))
  | none => .ok none
  | some value =>
      if 64 < value.length ∨ value.toList.any (fun c => c.toNat < 0x20) then
        .error (.folio (field ++ " is invalid"))
      else
        match fromisoformat (replaceZulu value.toList) with
        | none => .error (.folio "audit time window is invalid")
        | some candidate =>
            match candidate.offset with
            | none => .error (.folio (field ++ " must include a timezone"))
            | some offset =>
                match candidate.utc offset with
                | none => .error .builtin
                | some utc => .ok (some (candidate.instant offset, utc))

def auditWindow (fromTime toTime : Option String) :
    Except Failure (Option String × Option String) := do
  let fromBound ← auditBound "from_time" fromTime
  let toBound ← auditBound "to_time" toTime
  let inverted := fromBound.any (fun lower => toBound.any (fun upper => upper.1 < lower.1))
  if inverted then .error (.folio "audit time window is inverted")
  else
    .ok (fromBound.map (fun bound => bound.2.isoformat),
      toBound.map (fun bound => bound.2.isoformat))

structure AuditQuery where
  tenantId : String
  actor : String
  fromTime : Option String
  toTime : Option String
  limit : Int
  cursor : Option String

/-- The conditions of the SELECT. -/
structure AuditFilter where
  tenantId : String
  fromTime : Option String
  toTime : Option String
  cursor : Option (String × String)

def AuditFilter.admits (filter : AuditFilter) (row : AuditEventRow) : Bool :=
  row.tenantId = filter.tenantId && filter.fromTime.all (fun lower => lower ≤ row.occurredAt) &&
    filter.toTime.all (fun upper => row.occurredAt ≤ upper) &&
    filter.cursor.all (fun cursor =>
      cursor.1 < row.occurredAt || (row.occurredAt = cursor.1 && cursor.2 < row.id))

/-- `ORDER BY occurred_at ASC, id ASC` -/
def auditKey (row : AuditEventRow) : String ×ₗ String := toLex (row.occurredAt, row.id)

def Database.selectAudit (db : Database) (filter : AuditFilter) : List AuditEventRow :=
  orderBy auditKey (db.auditEvents.filter filter.admits)

def parseAuditCursor : Option String → Except Failure (Option (String × String))
  | none => .ok none
  | some cursor =>
      match parseArtifactListCursor cursor with
      | .error _ => .error (.folio "invalid audit cursor")
      | .ok parsed => .ok (some parsed)

def AuditQuery.filter (query : AuditQuery) : Except Failure AuditFilter := do
  validateToken "tenant_id" query.tenantId
  validateToken "actor_id" query.actor
  let window ← auditWindow query.fromTime query.toTime
  let cursor ← parseAuditCursor query.cursor
  .ok ⟨query.tenantId, window.1, window.2, cursor⟩

/-- A verified row with its hash, as the callers get it. -/
def sealedRow (settings : Settings) (row : AuditEventRow) : Except Failure (SealedEvent F) := do
  let event ← verifiedAuditRow settings row
  .ok ⟨event, row.integrityHash⟩

def listAuditEvents (settings : Settings) (db : Database) (query : AuditQuery) :
    Except Failure (List (SealedEvent F)) := do
  let filter ← query.filter
  ((Database.selectAudit db filter).take (clampLimit query.limit auditMaxEventsPerExport)).mapM
    (sealedRow settings)

/-! ### Exporting -/

def SealedEvent.toJson (sealedEvent : SealedEvent F) : Json F :=
  match sealedEvent.event.toJson with
  | .obj entries => .obj (entries ++ [(pyStr "integrity_hash", text sealedEvent.integrityHash)])
  | value => value

/-- `export_line` -/
def exportLine (sealedEvent : SealedEvent F) : Except Failure (List Char) :=
  match dumps true sealedEvent.toJson with
  | none => .error (.json .digits)
  | some line => .ok (line ++ ['\n'])

/-- The loop over the fetched rows: the events with their lines, and whether rows
are left. -/
def exportRows (settings : Settings) (limit : Nat) :
    (taken bytes : Nat) → List AuditEventRow →
      Except Failure (List (SealedEvent F × List Char) × Bool)
  | _, _, [] => .ok ([], false)
  | taken, bytes, row :: rest =>
      if taken = limit then .ok ([], true)
      else do
        let sealedEvent ← sealedRow settings row
        let line ← exportLine sealedEvent
        if auditMaxExportBytes < bytes + line.length then
          if taken = 0 then .error (.folio "audit export exceeds the allowed size")
          else .ok ([], true)
        else do
          let (more, hasMore) ← exportRows settings limit (taken + 1) (bytes + line.length) rest
          .ok ((sealedEvent, line) :: more, hasMore)

structure ExportPage (F : Type) where
  filter : AuditFilter
  events : List (SealedEvent F)
  lines : List (List Char)
  hasMore : Bool

/-- What `export_audit_events` reads, on its first connection. -/
def exportPage (settings : Settings) (db : Database) (query : AuditQuery) :
    Except Failure (ExportPage F) := do
  let filter ← query.filter
  let limit := clampLimit query.limit auditMaxEventsPerExport
  let (events, hasMore) ← exportRows settings limit 0 0
    ((Database.selectAudit db filter).take (limit + 1))
  .ok ⟨filter, events.map (·.1), events.map (·.2), hasMore⟩

structure AuditExportRow where
  id : String
  tenantId : String
  requestedBy : String
  createdAt : String
  fromTime : Option String
  toTime : Option String
  eventCount : Nat
  checksum : String
  schemaVersion : String
  expiresAt : String
  status : String

structure AuditStore where
  db : Database
  exports : List AuditExportRow

structure ExportDraw where
  exportId : Uuid
  createdAt : Timestamp
  expiryFrom : Timestamp
  event : EventDraw
  tenantAt : Timestamp

structure ExportReceipt (F : Type) where
  exportId : String
  schemaVersion : String
  tenantId : String
  requestedBy : String
  createdAt : String
  expiresAt : String
  eventCount : Nat
  checksum : String
  nextCursor : Option String
  events : List (SealedEvent F)

/-- `bytes.hex()` -/
def hexText (data : Bytes) : PyStr :=
  data.flatMap (fun byte =>
    [codePoint (Nat.digitChar (byte.toNat / 16)), codePoint (Nat.digitChar (byte.toNat % 16))])

def exportChecksum (settings : Settings) (lines : List (List Char)) : Except Failure String :=
  match dumps true (.obj [(pyStr "schema_version", text auditSchemaVersion),
      (pyStr "ndjson", .str (hexText (asciiBytes lines.flatten)))] : Json Empty) with
  | none => .error (.json .digits)
  | some record => .ok (settings.sha256 (asciiBytes record)).hex

/-- `f"{event['occurred_at']}|{event['id']}"` -/
def AuditEvent.cursor (event : AuditEvent F) : String := event.occurredAt ++ "|" ++ event.id

theorem exportDetails_distinct : [pyStr "status_code", pyStr "transport"].Nodup := by
  decide

def exportRequest (tenantId actor exportId : String) : AuditRequest F where
  tenantId := tenantId
  actorId := actor
  action := "audit_export"
  outcome := "allowed"
  requestId := some exportId
  correlationId := some exportId
  resourceType := "audit_export"
  resourceId := some exportId
  reason := "export_created"
  policyVersion := auditSchemaVersion
  source := "audit"
  details := some ⟨[(pyStr "status_code", .int 200), (pyStr "transport", text "mcp")],
    exportDetails_distinct⟩
  retentionClass := "security"

/-- The rest of `export_audit_events` up to its transaction: the export's row and
its event. -/
def prepareExport (settings : Settings) (draw : ExportDraw) (query : AuditQuery)
    (page : ExportPage F) : Except Failure (AuditExportRow × SealedEvent F) := do
  let exportId := newId "audit-export" draw.exportId
  match draw.expiryFrom.addDays 1 with
  | none => .error .builtin
  | some expiresAt => do
      let checksum ← exportChecksum settings page.lines
      let event ← buildAuditEvent settings draw.event
        (exportRequest query.tenantId query.actor exportId)
      .ok ({
        id := exportId
        tenantId := query.tenantId
        requestedBy := query.actor
        createdAt := draw.createdAt.isoformat
        fromTime := page.filter.fromTime
        toTime := page.filter.toTime
        eventCount := page.events.length
        checksum := checksum
        schemaVersion := auditSchemaVersion
        expiresAt := expiresAt.isoformat
        status := "ready" }, event)

/-- The transaction of an export. -/
def commitExport (tenantAt : Timestamp) (row : AuditExportRow) (sealedEvent : SealedEvent F)
    (store : AuditStore) : Except Failure AuditStore := do
  let db ← ensureTenant store.db row.tenantId tenantAt
  let exports ← insertUnique (fun new old => new.id = old.id) row store.exports
  let db ← insertAuditEvent sealedEvent db
  .ok ⟨db, exports⟩

def exportReceipt (row : AuditExportRow) (page : ExportPage F) : ExportReceipt F where
  exportId := row.id
  schemaVersion := auditSchemaVersion
  tenantId := row.tenantId
  requestedBy := row.requestedBy
  createdAt := row.createdAt
  expiresAt := row.expiresAt
  eventCount := page.events.length
  checksum := row.checksum
  nextCursor := if page.hasMore then page.events.getLast?.map (·.event.cursor) else none
  events := page.events

def exportAuditEvents (settings : Settings) (draw : ExportDraw) (query : AuditQuery)
    (store : AuditStore) : Except Failure (AuditStore × ExportReceipt F) := do
  let page ← exportPage settings store.db query
  let (row, sealedEvent) ← prepareExport settings draw query page
  let store ← commitExport draw.tenantAt row sealedEvent store
  .ok (store, exportReceipt row page)

/-! ### Holding and purging -/

theorem statusDetails_distinct : [pyStr "status_code"].Nodup := by
  decide

def holdRequest (tenantId actor reason : String) : AuditRequest F where
  tenantId := tenantId
  actorId := actor
  action := "audit_legal_hold"
  outcome := "allowed"
  requestId := none
  correlationId := none
  resourceType := "audit_event"
  resourceId := none
  reason := reason
  policyVersion := auditSchemaVersion
  source := "audit"
  details := some ⟨[(pyStr "status_code", .int 200)], statusDetails_distinct⟩
  retentionClass := "security"

/-- A row that is verified, held and hashed anew. -/
def holdRow (F : Type) [FloatFormat F] (settings : Settings) (row : AuditEventRow) :
    Except Failure AuditEventRow := do
  let event : AuditEvent F ← verifiedAuditRow settings row
  let hash ← hashOrRaise settings { event with legalHold := true }
  .ok { row with legalHold := 1, integrityHash := hash }

def setAuditLegalHold (F : Type) [FloatFormat F] (settings : Settings) (draw : EventDraw)
    (tenantAt : Timestamp) (tenantId actor : String) (eventIds : List String) (reason : String)
    (db : Database) : Except Failure (Database × Nat) := do
  validateToken "tenant_id" tenantId
  validateToken "actor_id" actor
  validateToken "reason" reason
  eventIds.forM (validateToken "event_id")
  if eventIds = [] ∨ auditMaxEventsPerExport < eventIds.length then
    .error (.folio "audit legal hold event list is out of bounds")
  else
    let holdEvent : SealedEvent F ← buildAuditEvent settings draw (holdRequest tenantId actor reason)
    let db ← ensureTenant db tenantId tenantAt
    let selected := fun row : AuditEventRow => row.tenantId = tenantId ∧ row.id ∈ eventIds
    let events ← db.auditEvents.mapM (fun row =>
      if selected row then holdRow F settings row else .ok row)
    let db' ← insertAuditEvent holdEvent { db with auditEvents := events }
    .ok (db', (db.auditEvents.filter (fun row => selected row)).length)

theorem purgeDetails_distinct : [pyStr "status_code", pyStr "limit_name"].Nodup := by
  decide

def purgeRequest (tenantId : String) (count : Nat) : AuditRequest F where
  tenantId := tenantId
  actorId := "system"
  action := "audit_retention_purge"
  outcome := "allowed"
  requestId := none
  correlationId := none
  resourceType := "audit_event"
  resourceId := none
  reason := "retention_expired"
  policyVersion := auditSchemaVersion
  source := "retention"
  details := some ⟨[(pyStr "status_code", .int 200), (pyStr "limit_name", text (toString count))],
    purgeDetails_distinct⟩
  retentionClass := "security"

def expired (cutoff : String) (row : AuditEventRow) : Bool :=
  row.expiresAt ≤ cutoff && row.legalHold = 0

/-- `GROUP BY tenant_id` over the expired rows. -/
def Database.expiredCounts (db : Database) (cutoff : String) : List (String × Nat) :=
  let rows := db.auditEvents.filter (expired cutoff)
  (orderBy id (rows.map (·.tenantId)).dedup).map (fun tenantId =>
    (tenantId, (rows.filter (fun row => row.tenantId = tenantId)).length))

def insertPurgeEvents (F : Type) [FloatFormat F] (settings : Settings) (draw : String → EventDraw) :
    List (String × Nat) → Database → Except Failure Database
  | [], db => .ok db
  | (tenantId, count) :: rest, db => do
      let purgeEvent : SealedEvent F ← buildAuditEvent settings (draw tenantId)
        (purgeRequest tenantId count)
      let db ← insertAuditEvent purgeEvent db
      insertPurgeEvents F settings draw rest db

def purgeAuditEvents (F : Type) [FloatFormat F] (settings : Settings) (draw : String → EventDraw)
    (clock : Timestamp) (now : Option String) (db : Database) :
    Except Failure (Database × List (String × Nat)) := do
  let cutoff := orElse now clock.isoformat
  if 64 < cutoff.length ∨ cutoff.toList.any (fun c => c.toNat < 0x20) then
    .error (.folio "audit purge time is invalid")
  else
    let counts := Database.expiredCounts db cutoff
    let kept := db.auditEvents.filter (fun row => !expired cutoff row)
    let db ← insertPurgeEvents F settings draw counts { db with auditEvents := kept }
    .ok (db, counts)

end Trail

end FolioLattice.Audit
