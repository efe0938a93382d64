/-
`initialize`: the idempotent schema upgrade every service start runs, in one
transaction.
-/

import FolioLattice.Audit.TraceContext
import FolioLattice.Store.Reads

namespace FolioLattice.Store

open FolioLattice.Text FolioLattice.Data FolioLattice.Relational FolioLattice.Audit

/-! ### The migration ledger -/

structure Migration where
  version : Nat
  name : String
  contract : String

def schemaMigrations : List Migration :=
  [⟨1, "base_schema", "artifact graph, ACL, and external MCP tables"⟩,
    ⟨2, "acl_revocation_reason", "revocation reason on ACL grants"⟩,
    ⟨3, "external_policy", "policy JSON on external MCP connections"⟩,
    ⟨4, "external_audit_reason", "reason on external MCP audit rows"⟩,
    ⟨5, "artifact_owner_and_current_version", "artifact owner and current version columns"⟩,
    ⟨6, "audit_lifecycle", "audit events, exports, retention, and legal holds"⟩,
    ⟨7, "audit_trace_context", "explicit trace/span IDs and legacy audit hash backfill"⟩]

def migrationChecksum (settings : Settings) (migration : Migration) : String :=
  (settings.sha256 (toString migration.version ++ ":" ++ migration.name ++ ":" ++
    migration.contract).toUTF8.toList).hex

def ensureMigration (settings : Settings) (now : Nat → Timestamp) (migration : Migration)
    (rows : List MigrationRow) : Except Failure (List MigrationRow) :=
  match rows.find? (fun row => row.version = migration.version) with
  | none =>
      -- the names are unique too
      insertUnique (fun new old => new.version = old.version || new.name = old.name)
        ⟨migration.version, migration.name, migrationChecksum settings migration,
          (now migration.version).isoformat⟩ rows
  | some row =>
      if row.name ≠ migration.name ∨ row.checksum ≠ migrationChecksum settings migration then
        .error (.folio "schema migration ledger checksum mismatch")
      else .ok rows

def ensureMigrations (settings : Settings) (now : Nat → Timestamp) :
    List Migration → List MigrationRow → Except Failure (List MigrationRow)
  | [], rows => .ok rows
  | migration :: rest, rows => do
      let rows ← ensureMigration settings now migration rows
      ensureMigrations settings now rest rows

def ensureMigrationLedger (settings : Settings) (now : Nat → Timestamp) (db : Database) :
    Except Failure Database := do
  if db.schemaMigrations.any (fun row => row.version ∉ schemaMigrations.map (·.version)) then
    .error (.folio "schema migration ledger contains an unknown version")
  else
    let rows ← ensureMigrations settings now schemaMigrations db.schemaMigrations
    .ok { db with schemaMigrations := rows }

/-! ### Backfills -/

/-- Chunks that the substring table lacks. -/
def Database.backfillSubstrings (db : Database) : Database :=
  let missing := db.chunks.filter (fun c => !db.chunkSubstringFts.any (fun s => s.chunkId = c.id))
  { db with chunkSubstringFts := db.chunkSubstringFts ++ missing.map ChunkRow.fts }

/-- `ALTER TABLE … ADD COLUMN`, and the trace-context migration while the ledger
lacks it. -/
def Database.upgradeAudit (F : Type) [FloatFormat F] (settings : Settings) (db : Database) :
    Except Failure Database := do
  let events := db.auditEvents.map (fun row =>
    { row with
      traceId := if db.layout.traceId then row.traceId else ""
      spanId := if db.layout.spanId then row.spanId else "" })
  let layout := { db.layout with traceId := true, spanId := true }
  if db.schemaMigrations.any (fun row => row.version = 7) then
    .ok { db with auditEvents := events, layout := layout }
  else
    let migrated ← events.mapM (migrateRow F settings)
    .ok { db with auditEvents := migrated, layout := layout }

/-- The versions of an artifact, oldest first. -/
def Database.versionsOf (db : Database) (tenantId artifactId : String) : List VersionRow :=
  orderBy (fun v => toLex (v.createdAt, v.id))
    (db.versions.filter (fun v => v.artifactId = artifactId && v.tenantId = tenantId))

/-- The owner of a row that has none: who wrote its first version. -/
def Database.migrateOwner (db : Database) (artifact : ArtifactRow) :
    Except Failure ArtifactRow :=
  match artifact.ownerActorId with
  | some _ => .ok artifact
  | none =>
      match ((db.versionsOf artifact.tenantId artifact.id).head?.map (·.actor)).filter
          (fun actor => !actor.isEmpty) with
      | none => .error (.folio "cannot migrate artifact without an owner actor")
      | some owner => .ok { artifact with ownerActorId := some owner }

def Database.upgradeOwners (db : Database) : Except Failure Database := do
  let artifacts ← (db.artifacts.map (fun a =>
    if db.layout.ownerActorId then a else { a with ownerActorId := none })).mapM db.migrateOwner
  .ok { db with artifacts := artifacts, layout := { db.layout with ownerActorId := true } }

def Database.upgradeCurrentVersions (db : Database) : Database :=
  if db.layout.currentVersionId then db
  else
    { db with
      artifacts := db.artifacts.map (fun a =>
        { a with currentVersionId := (db.versionsOf a.tenantId a.id).getLast?.map (·.id) })
      layout := { db.layout with currentVersionId := true } }

def insertOrIgnore {α : Type} (clash : α → α → Bool) (rows : List α) (row : α) : List α :=
  if rows.any (clash row) then rows else rows ++ [row]

/-- The three grants of every artifact's owner. -/
def Database.ownerGrants (db : Database) (now : String → Action → Timestamp) : List GrantRow :=
  db.artifacts.flatMap (fun a =>
    match a.ownerActorId with
    | none => []
    | some owner => aclActions.map (fun action => ownerGrant a.tenantId a.id owner action (now a.id action)))

def Database.restoreOwnerGrants (db : Database) (now : String → Action → Timestamp) : Database :=
  { db with aclGrants := (db.ownerGrants now).foldl (insertOrIgnore GrantRow.clashes) db.aclGrants }

structure InitializeDraw where
  grantAt : String → Action → Timestamp
  ledgerAt : Nat → Timestamp

def InitializeDraw.epoch : InitializeDraw := ⟨fun _ _ => Timestamp.epoch, fun _ => Timestamp.epoch⟩

def initializeStore (F : Type) [FloatFormat F] (settings : Settings) (draw : InitializeDraw)
    (db : Database) : Except Failure Database := do
  let db := db.backfillSubstrings
  let db := { db with layout := { db.layout with revocationReason := true } }
  let db ← db.upgradeAudit F settings
  let db ← db.upgradeOwners
  let db := db.upgradeCurrentVersions
  let db := db.restoreOwnerGrants draw.grantAt
  ensureMigrationLedger settings draw.ledgerAt db

/-! ### A new database -/

/-- What the first start leaves: no rows but the ledger's. -/
def freshDatabase (settings : Settings) (draw : InitializeDraw) : Database :=
  { Database.created with
    schemaMigrations := schemaMigrations.map (fun migration =>
      ⟨migration.version, migration.name, migrationChecksum settings migration,
        (draw.ledgerAt migration.version).isoformat⟩) }

theorem initializeStore_created (F : Type) [FloatFormat F] (settings : Settings)
    (draw : InitializeDraw) :
    initializeStore F settings draw Database.created = .ok (freshDatabase settings draw) := by
  rfl

end FolioLattice.Store
