/-
A start of the service on a database file: the script that creates the missing tables
commits on its own, the upgrade after it in one transaction.
-/

import FolioLattice.Audit.Life
import FolioLattice.External.Registry
import FolioLattice.Store.Settled

namespace FolioLattice.Store

open FolioLattice.Text FolioLattice.Data FolioLattice.Relational FolioLattice.Audit
open FolioLattice.External FolioLattice.Concurrency
open FolioLattice.Effects (except_bind_ok)

variable {F : Type} [FloatFormat F]

/-! ### Files and tables -/

/-- The columns of the external tables that databases of earlier releases lack. -/
structure ExternalColumns where
  policyJson : Bool
  reason : Bool
  deriving DecidableEq

/-- A database file: a table is missing or has its rows.  The columns of a missing
table mean nothing. -/
structure StoreFile where
  tenants : Option (List TenantRow)
  artifacts : Option (List ArtifactRow)
  versions : Option (List VersionRow)
  chunks : Option (List ChunkRow)
  chunkFts : Option (List FtsRow)
  chunkSubstringFts : Option (List FtsRow)
  edges : Option (List EdgeRow)
  aclGrants : Option (List GrantRow)
  oidcMemberships : Option (List MembershipRow)
  externalConnections : Option (List ConnectionRow)
  externalAudit : Option (List ExternalAuditRow)
  auditEvents : Option (List AuditEventRow)
  auditExports : Option (List AuditExportRow)
  schemaMigrations : Option (List MigrationRow)
  layout : Layout
  externalColumns : ExternalColumns

def StoreFile.empty : StoreFile :=
  ⟨none, none, none, none, none, none, none, none, none, none, none, none, none, none,
    Layout.complete, ⟨true, true⟩⟩

/-- All tables of a service. -/
structure ServiceTables where
  store : AuditStore
  registry : Registry
  columns : ExternalColumns

def ServiceTables.file (tables : ServiceTables) : StoreFile where
  tenants := some tables.store.db.tenants
  artifacts := some tables.store.db.artifacts
  versions := some tables.store.db.versions
  chunks := some tables.store.db.chunks
  chunkFts := some tables.store.db.chunkFts
  chunkSubstringFts := some tables.store.db.chunkSubstringFts
  edges := some tables.store.db.edges
  aclGrants := some tables.store.db.aclGrants
  oidcMemberships := tables.store.db.oidcMemberships
  externalConnections := some tables.registry.connections
  externalAudit := some tables.registry.audit
  auditEvents := some tables.store.db.auditEvents
  auditExports := some tables.store.exports
  schemaMigrations := some tables.store.db.schemaMigrations
  layout := tables.store.db.layout
  externalColumns := tables.columns

/-! ### The start -/

/-- `CREATE TABLE IF NOT EXISTS`: a new table has all columns and no row. -/
def StoreFile.createTables (file : StoreFile) : ServiceTables where
  store := {
    db := {
      tenants := file.tenants.getD []
      artifacts := file.artifacts.getD []
      versions := file.versions.getD []
      chunks := file.chunks.getD []
      chunkFts := file.chunkFts.getD []
      chunkSubstringFts := file.chunkSubstringFts.getD []
      edges := file.edges.getD []
      aclGrants := file.aclGrants.getD []
      oidcMemberships := file.oidcMemberships
      auditEvents := file.auditEvents.getD []
      schemaMigrations := file.schemaMigrations.getD []
      layout := {
        revocationReason := file.aclGrants.isNone || file.layout.revocationReason
        traceId := file.auditEvents.isNone || file.layout.traceId
        spanId := file.auditEvents.isNone || file.layout.spanId
        ownerActorId := file.artifacts.isNone || file.layout.ownerActorId
        currentVersionId := file.artifacts.isNone || file.layout.currentVersionId } }
    exports := file.auditExports.getD [] }
  registry := ⟨file.externalConnections.getD [], file.externalAudit.getD []⟩
  columns := {
    policyJson := file.externalConnections.isNone || file.externalColumns.policyJson
    reason := file.externalAudit.isNone || file.externalColumns.reason }

/-- `ALTER TABLE … ADD COLUMN … DEFAULT '{}'`, `… DEFAULT 'unspecified'` -/
def addExternalColumns (columns : ExternalColumns) (registry : Registry) : Registry where
  connections := registry.connections.map (fun row =>
    if columns.policyJson then row else { row with policyJson := "\x7b\x7d" })
  audit := registry.audit.map (fun row =>
    if columns.reason then row else { row with reason := unspecifiedReason })

def ServiceTables.upgrade (F : Type) [FloatFormat F] (settings : Settings) (draw : InitializeDraw)
    (tables : ServiceTables) : Except Failure ServiceTables := do
  let db ← initializeStore F settings draw tables.store.db
  .ok ⟨{ tables.store with db := db }, addExternalColumns tables.columns tables.registry,
    ⟨true, true⟩⟩

/-- `initialize` on a file.  What it raises rolls back all but the script. -/
def initializeFile (F : Type) [FloatFormat F] (settings : Settings) (draw : InitializeDraw)
    (file : StoreFile) : ServiceTables × Except Failure Unit :=
  match file.createTables.upgrade F settings draw with
  | .ok upgraded => (upgraded, .ok ())
  | .error e => (file.createTables, .error e)

/-- `initialize` again and again: the tables at the end, and what each call gave. -/
def initializeAgain (F : Type) [FloatFormat F] (settings : Settings) :
    List InitializeDraw → ServiceTables → ServiceTables × List (Except Failure Unit)
  | [], tables => (tables, [])
  | draw :: rest, tables =>
      let once := initializeFile F settings draw tables.file
      let more := initializeAgain F settings rest once.1
      (more.1, once.2 :: more.2)

/-! ### Tables that stay -/

def Kept {α : Type} (old new : Option (List α)) : Prop := ∀ rows, old = some rows → new = some rows

/-- Every table that was there has its rows and columns still. -/
structure RowsKept (file file' : StoreFile) : Prop where
  tenants : Kept file.tenants file'.tenants
  artifacts : Kept file.artifacts file'.artifacts
  versions : Kept file.versions file'.versions
  chunks : Kept file.chunks file'.chunks
  chunkFts : Kept file.chunkFts file'.chunkFts
  chunkSubstringFts : Kept file.chunkSubstringFts file'.chunkSubstringFts
  edges : Kept file.edges file'.edges
  aclGrants : Kept file.aclGrants file'.aclGrants
  oidcMemberships : file'.oidcMemberships = file.oidcMemberships
  externalConnections : Kept file.externalConnections file'.externalConnections
  externalAudit : Kept file.externalAudit file'.externalAudit
  auditEvents : Kept file.auditEvents file'.auditEvents
  auditExports : Kept file.auditExports file'.auditExports
  schemaMigrations : Kept file.schemaMigrations file'.schemaMigrations
  grantColumns : file.aclGrants ≠ none →
    file'.layout.revocationReason = file.layout.revocationReason
  eventColumns : file.auditEvents ≠ none →
    file'.layout.traceId = file.layout.traceId ∧ file'.layout.spanId = file.layout.spanId
  artifactColumns : file.artifacts ≠ none →
    file'.layout.ownerActorId = file.layout.ownerActorId ∧
      file'.layout.currentVersionId = file.layout.currentVersionId
  connectionColumns : file.externalConnections ≠ none →
    file'.externalColumns.policyJson = file.externalColumns.policyJson
  auditColumns : file.externalAudit ≠ none →
    file'.externalColumns.reason = file.externalColumns.reason

theorem Kept.getD {α : Type} (rows : Option (List α)) : Kept rows (some (rows.getD [])) := by
  intro rows' present
  rw [present]
  rfl

theorem or_isNone {α : Type} {rows : Option (List α)} (column : Bool) (present : rows ≠ none) :
    (rows.isNone || column) = column := by
  cases rows with
  | none => exact absurd rfl present
  | some rows => rfl

/-- The script changes no row. -/
theorem createTables_kept (file : StoreFile) : RowsKept file file.createTables.file where
  tenants := Kept.getD _
  artifacts := Kept.getD _
  versions := Kept.getD _
  chunks := Kept.getD _
  chunkFts := Kept.getD _
  chunkSubstringFts := Kept.getD _
  edges := Kept.getD _
  aclGrants := Kept.getD _
  oidcMemberships := rfl
  externalConnections := Kept.getD _
  externalAudit := Kept.getD _
  auditEvents := Kept.getD _
  auditExports := Kept.getD _
  schemaMigrations := Kept.getD _
  grantColumns := or_isNone _
  eventColumns present := ⟨or_isNone _ present, or_isNone _ present⟩
  artifactColumns present := ⟨or_isNone _ present, or_isNone _ present⟩
  connectionColumns := or_isNone _
  auditColumns := or_isNone _

theorem createTables_file (tables : ServiceTables) : tables.file.createTables = tables := rfl

/-! ### Settled tables -/

section Starts

variable {settings : Settings} {draw : InitializeDraw} {tables tables' : ServiceTables}
  {file : StoreFile}

structure ServiceSettled (settings : Settings) (tables : ServiceTables) : Prop where
  db : Settled settings tables.store.db
  columns : tables.columns = ⟨true, true⟩

theorem ServiceSettled.fixed (settled : ServiceSettled settings tables) :
    initializeFile F settings draw tables.file = (tables, .ok ()) := by
  have registry : addExternalColumns tables.columns tables.registry = tables.registry := by
    unfold addExternalColumns
    rw [settled.columns]
    simp only [if_true, List.map_id']
  have upgraded : tables.upgrade F settings draw = .ok tables := by
    unfold ServiceTables.upgrade
    rw [settled.db.fixed, registry, ← settled.columns]
    rfl
  unfold initializeFile
  rw [createTables_file, upgraded]

theorem ServiceSettled.again (settled : ServiceSettled settings tables)
    (draws : List InitializeDraw) :
    initializeAgain F settings draws tables = (tables, draws.map (fun _ => .ok ())) := by
  induction draws with
  | nil => rfl
  | cons draw rest ih =>
      rw [initializeAgain, settled.fixed]
      dsimp only
      rw [ih]
      rfl

theorem initializeFile_cases (F : Type) [FloatFormat F] (settings : Settings)
    (draw : InitializeDraw) (file : StoreFile) :
    (∃ tables, initializeFile F settings draw file = (tables, .ok ()) ∧
        file.createTables.upgrade F settings draw = .ok tables) ∨
      ∃ e, initializeFile F settings draw file = (file.createTables, .error e) := by
  unfold initializeFile
  cases file.createTables.upgrade F settings draw with
  | ok tables => exact Or.inl ⟨tables, rfl, rfl⟩
  | error e => exact Or.inr ⟨e, rfl⟩

theorem initializeFile_settles (done : initializeFile F settings draw file = (tables, .ok ())) :
    ServiceSettled settings tables := by
  rcases initializeFile_cases F settings draw file with ⟨tables', same, upgraded⟩ | ⟨e, failed⟩
  · rw [same] at done
    rw [← (Prod.mk.inj done).1]
    obtain ⟨db, initialized, isTables⟩ := except_bind_ok upgraded
    rw [← Except.ok.inj isTables]
    exact ⟨initializeStore_settles initialized, rfl⟩
  · rw [failed] at done
    cases (Prod.mk.inj done).2

theorem initializeFile_refused
    (refused : ForeignLedger settings (file.schemaMigrations.getD []) ∨
      Ownerless file.createTables.store.db) :
    ∃ e, (initializeFile F settings draw file).2 = .error e := by
  rcases initializeFile_cases F settings draw file with ⟨tables, same, upgraded⟩ | ⟨e, failed⟩
  · obtain ⟨db, initialized, _⟩ := except_bind_ok upgraded
    exact absurd initialized (initializeStore_refused refused)
  · exact ⟨e, by rw [failed]⟩

theorem initializeFile_error {e : Failure} (failed : (initializeFile F settings draw file).2 = .error e) :
    RowsKept file (initializeFile F settings draw file).1.file := by
  rcases initializeFile_cases F settings draw file with ⟨tables, same, _⟩ | ⟨e, same⟩
  · rw [same] at failed
    cases failed
  · rw [same]
    exact createTables_kept file

end Starts

/-! ### What audit calls leave alone -/

section Frame

variable {settings : Settings} {db db' : Database}

/-- The databases differ in tenants and audit events alone. -/
def TrailOnly (db db' : Database) : Prop :=
  ∃ tenants events, db' = { db with tenants := tenants, auditEvents := events }

theorem TrailOnly.refl (db : Database) : TrailOnly db db := ⟨db.tenants, db.auditEvents, rfl⟩

theorem TrailOnly.trans {db'' : Database} (first : TrailOnly db db') (second : TrailOnly db' db'') :
    TrailOnly db db'' := by
  obtain ⟨_, _, isMid⟩ := first
  obtain ⟨tenants, events, isLast⟩ := second
  exact ⟨tenants, events, by rw [isLast, isMid]⟩

theorem TrailOnly.events (db : Database) (events : List AuditEventRow) :
    TrailOnly db { db with auditEvents := events } :=
  ⟨db.tenants, events, rfl⟩

theorem ensureTenant_trailOnly {tenantId : String} {now : Timestamp}
    (done : ensureTenant db tenantId now = .ok db') : TrailOnly db db' := by
  obtain ⟨_, tenants, isDb⟩ := ensureTenant_ok done
  exact ⟨tenants, db.auditEvents, isDb⟩

theorem insertAuditEvent_trailOnly {sealedEvent : SealedEvent F}
    (done : insertAuditEvent sealedEvent db = .ok db') : TrailOnly db db' := by
  unfold insertAuditEvent at done
  split at done
  · cases done
  · split at done
    · obtain ⟨events, _, isDb⟩ := except_bind_ok done
      rw [← Except.ok.inj isDb]
      exact TrailOnly.events db events
    · cases done

theorem insertPurgeEvents_trailOnly {draw : String → EventDraw} {counts : List (String × Nat)}
    (done : insertPurgeEvents F settings draw counts db = .ok db') : TrailOnly db db' := by
  induction counts generalizing db with
  | nil =>
      rw [← Except.ok.inj done]
      exact TrailOnly.refl db
  | cons entry rest ih =>
      obtain ⟨_, _, done⟩ := except_bind_ok done
      obtain ⟨_, inserted, done⟩ := except_bind_ok done
      exact (insertAuditEvent_trailOnly inserted).trans (ih done)

theorem recordAuditEvent_trailOnly {draw : EventDraw} {tenantAt : Timestamp}
    {request : AuditRequest F} {sealedEvent : SealedEvent F}
    (done : recordAuditEvent settings draw tenantAt request db = .ok (db', sealedEvent)) :
    TrailOnly db db' := by
  obtain ⟨_, _, done⟩ := except_bind_ok done
  obtain ⟨_, committed, done⟩ := except_bind_ok done
  obtain ⟨_, ensured, inserted⟩ := except_bind_ok committed
  rw [← (Prod.mk.inj (Except.ok.inj done)).1]
  exact (ensureTenant_trailOnly ensured).trans (insertAuditEvent_trailOnly inserted)

theorem setAuditLegalHold_trailOnly {draw : EventDraw} {tenantAt : Timestamp}
    {tenantId actor reason : String} {eventIds : List String} {count : Nat}
    (done : setAuditLegalHold F settings draw tenantAt tenantId actor eventIds reason db =
      .ok (db', count)) : TrailOnly db db' := by
  unfold setAuditLegalHold at done
  obtain ⟨_, _, done⟩ := except_bind_ok done
  obtain ⟨_, _, done⟩ := except_bind_ok done
  obtain ⟨_, _, done⟩ := except_bind_ok done
  obtain ⟨_, _, done⟩ := except_bind_ok done
  split at done
  · cases done
  · obtain ⟨_, _, done⟩ := except_bind_ok done
    obtain ⟨_, ensured, done⟩ := except_bind_ok done
    obtain ⟨events, _, done⟩ := except_bind_ok done
    obtain ⟨_, inserted, done⟩ := except_bind_ok done
    rw [← (Prod.mk.inj (Except.ok.inj done)).1]
    exact (ensureTenant_trailOnly ensured).trans
      ((TrailOnly.events _ events).trans (insertAuditEvent_trailOnly inserted))

theorem purgeAuditEvents_trailOnly {draw : String → EventDraw} {clock : Timestamp}
    {now : Option String} {counts : List (String × Nat)}
    (done : purgeAuditEvents F settings draw clock now db = .ok (db', counts)) :
    TrailOnly db db' := by
  unfold purgeAuditEvents at done
  dsimp only at done
  split at done
  · cases done
  · obtain ⟨_, inserted, done⟩ := except_bind_ok done
    rw [← (Prod.mk.inj (Except.ok.inj done)).1]
    exact (TrailOnly.events db _).trans (insertPurgeEvents_trailOnly inserted)

theorem exportAuditEvents_trailOnly {draw : ExportDraw} {query : AuditQuery}
    {store store' : AuditStore} {receipt : ExportReceipt F}
    (done : exportAuditEvents settings draw query store = .ok (store', receipt)) :
    TrailOnly store.db store'.db := by
  unfold exportAuditEvents at done
  obtain ⟨_, _, done⟩ := except_bind_ok done
  obtain ⟨⟨row, sealedEvent⟩, _, done⟩ := except_bind_ok done
  obtain ⟨after, committed, done⟩ := except_bind_ok done
  rw [← (Prod.mk.inj (Except.ok.inj done)).1]
  unfold commitExport at committed
  obtain ⟨_, ensured, committed⟩ := except_bind_ok committed
  obtain ⟨_, _, committed⟩ := except_bind_ok committed
  obtain ⟨_, inserted, committed⟩ := except_bind_ok committed
  rw [← Except.ok.inj committed]
  exact (ensureTenant_trailOnly ensured).trans (insertAuditEvent_trailOnly inserted)

theorem AuditCall.after_trailOnly (call : AuditCall F) (store : AuditStore) :
    TrailOnly store.db (call.after settings store).db := by
  unfold AuditCall.after
  cases done : call.perform settings store with
  | error e => exact TrailOnly.refl _
  | ok store' =>
      cases call with
      | record draw tenantAt request =>
          obtain ⟨⟨db, sealedEvent⟩, recorded, isStore⟩ := except_bind_ok done
          rw [← Except.ok.inj isStore]
          exact recordAuditEvent_trailOnly recorded
      | exported draw query =>
          obtain ⟨⟨after, receipt⟩, exported, isStore⟩ := except_bind_ok done
          rw [← Except.ok.inj isStore]
          exact exportAuditEvents_trailOnly exported
      | hold draw tenantAt tenantId actor eventIds reason =>
          obtain ⟨⟨db, count⟩, held, isStore⟩ := except_bind_ok done
          rw [← Except.ok.inj isStore]
          exact setAuditLegalHold_trailOnly held
      | purge draw clock now =>
          obtain ⟨⟨db, counts⟩, purged, isStore⟩ := except_bind_ok done
          rw [← Except.ok.inj isStore]
          exact purgeAuditEvents_trailOnly purged

end Frame

/-! ### Services -/

/-- All that a service keeps between calls. -/
structure Service where
  tables : ServiceTables
  files : Files

def Service.disk (service : Service) : Disk := ⟨service.tables.store.db, service.files⟩

def ServiceTables.withDb (tables : ServiceTables) (db : Database) : ServiceTables :=
  { tables with store := { tables.store with db := db } }

inductive ServiceEvent (F : Type) where
  | store (occurrence : Occurrence F)
  | audit (call : AuditCall F)
  | external
  | start (result : Except Failure Unit)

/-- The calls in any order.  Those of the registry write their own tables, and the tenant
they may add. -/
inductive ServiceStep (settings : Settings) : Transition Service (ServiceEvent F) where
  | store {service : Service} {occurrence : Occurrence F} {disk : Disk}
      (step : StoreStep settings service.disk occurrence disk) :
      ServiceStep settings service (.store occurrence) ⟨service.tables.withDb disk.db, disk.files⟩
  | audit (service : Service) (call : AuditCall F) :
      ServiceStep settings service (.audit call)
        ⟨{ service.tables with store := call.after settings service.tables.store }, service.files⟩
  | external (service : Service) (tenants : List TenantRow) (registry : Registry) :
      ServiceStep settings service .external
        ⟨{ service.tables.withDb { service.tables.store.db with tenants := tenants } with
            registry := registry }, service.files⟩
  | start (service : Service) (draw : InitializeDraw) :
      ServiceStep settings service
        (.start (initializeFile F settings draw service.tables.file).2)
        ⟨(initializeFile F settings draw service.tables.file).1, service.files⟩

/-- What the first start makes of a file that is not there. -/
def newService (F : Type) [FloatFormat F] (settings : Settings) (draw : InitializeDraw) : Service :=
  ⟨(initializeFile F settings draw .empty).1, fun _ => none⟩

/-- The states that some calls reach from a new service. -/
def ServiceReachable (F : Type) [FloatFormat F] (settings : Settings) (service : Service) : Prop :=
  ∃ (draw : InitializeDraw) (past : List (Service × ServiceEvent F)),
    Trace (ServiceStep settings) (newService F settings draw) past service

/-! ### Reachable services are settled -/

section Runs

variable {settings : Settings} {draw : InitializeDraw} {service service' : Service}

theorem newService_tables (F : Type) [FloatFormat F] (settings : Settings) (draw : InitializeDraw) :
    (newService F settings draw).tables =
        ⟨⟨freshDatabase settings draw, []⟩, ⟨[], []⟩, ⟨true, true⟩⟩ ∧
      (initializeFile F settings draw .empty).2 = .ok () := by
  have upgraded : StoreFile.empty.createTables.upgrade F settings draw =
      .ok ⟨⟨freshDatabase settings draw, []⟩, ⟨[], []⟩, ⟨true, true⟩⟩ := by
    unfold ServiceTables.upgrade
    have created : StoreFile.empty.createTables.store.db = Database.created := rfl
    rw [created, initializeStore_created]
    rfl
  unfold newService initializeFile
  rw [upgraded]
  exact ⟨rfl, rfl⟩

theorem StoreSound.settled {db : Database} (sound : StoreSound db)
    (ledger : LedgerSettled settings db.schemaMigrations) : Settled settings db where
  layout := sound.layout
  substrings := by
    intro chunk member
    refine ⟨chunk.fts, ?_, rfl⟩
    rw [sound.versions.substringIndexed]
    exact List.mem_map_of_mem member
  owners := by
    intro artifact member missing
    obtain ⟨owner, owned, _⟩ := sound.ready.owners artifact member
    rw [owned] at missing
    cases missing
  granted := by
    intro now grant member
    obtain ⟨artifact, inside, owner, _, action, _, same⟩ := mem_ownerGrants.mp member
    obtain ⟨_, _, granted⟩ := sound.ready.owners artifact inside
    obtain ⟨old, present, sameId⟩ := granted action
    refine ⟨old, present, ?_⟩
    unfold GrantRow.clashes
    rw [Bool.or_eq_true, same]
    exact Or.inl (decide_eq_true sameId.symm)
  ledger := ledger

/-- What holds in every reachable state: the store is sound and its ledger this release's. -/
structure ServiceSound (settings : Settings) (service : Service) : Prop where
  store : StoreSound service.tables.store.db
  ledger : LedgerSettled settings service.tables.store.db.schemaMigrations
  columns : service.tables.columns = ⟨true, true⟩

theorem ServiceSound.settled (sound : ServiceSound settings service) :
    ServiceSettled settings service.tables :=
  ⟨sound.store.settled sound.ledger, sound.columns⟩

theorem ServiceSound.fresh (F : Type) [FloatFormat F] (settings : Settings)
    (draw : InitializeDraw) : ServiceSound settings (newService F settings draw) := by
  obtain ⟨isNew, started⟩ := newService_tables F settings draw
  have done : initializeFile F settings draw .empty =
      ((newService F settings draw).tables, .ok ()) := Prod.ext rfl started
  constructor
  · rw [isNew]
    exact StoreSound.fresh settings draw
  · exact (initializeFile_settles done).db.ledger
  · rw [isNew]

/-- No call but a start writes to the ledger. -/
theorem Effect.ledger {db db' : Database} {call : Call F} {answer : Reply}
    (effect : Effect settings db call answer db') (noStart : ∀ draw, call ≠ .restart draw) :
    db'.schemaMigrations = db.schemaMigrations := by
  cases effect with
  | initialized => exact absurd rfl (noStart _)
  | _ => rfl

theorem StoreStep.ledger {disk disk' : Disk} {occurrence : Occurrence F}
    (sound : StoreSound disk.db) (ledger : LedgerSettled settings disk.db.schemaMigrations)
    (step : StoreStep settings disk occurrence disk') :
    disk'.db.schemaMigrations = disk.db.schemaMigrations := by
  cases step with
  | call _ call =>
      rcases commit_cases disk (call.body settings disk) with
        ⟨db, answer, done, committed⟩ | ⟨e, _, failed⟩
      · have isDb : (perform settings call disk).1.db = db := congrArg (·.1.db) committed
        rw [isDb]
        by_cases start : ∃ draw, call = .restart draw
        · obtain ⟨draw, same⟩ := start
          rw [same] at done
          unfold Call.body at done
          dsimp only at done
          rw [(sound.settled ledger).fixed] at done
          rw [← (Prod.mk.inj (Except.ok.inj done)).1]
        · refine (Call.effect sound.ready done).ledger ?_
          exact fun draw same => start ⟨draw, same⟩
      · exact congrArg (·.1.db.schemaMigrations) failed
  | interrupted _ _ files left => rfl
  | memberships _ members => rfl

theorem StoreSound.trailOnly {db db' : Database} (sound : StoreSound db) (only : TrailOnly db db') :
    StoreSound db' := by
  obtain ⟨tenants, events, isDb⟩ := only
  rw [isDb]
  exact sound.congr rfl rfl rfl rfl rfl (sound.grants.congr rfl rfl)
    (sound.edges.kept rfl (ArtifactsKept.refl db)) rfl

theorem TrailOnly.ledger {db db' : Database} (only : TrailOnly db db') :
    db'.schemaMigrations = db.schemaMigrations := by
  obtain ⟨tenants, events, isDb⟩ := only
  rw [isDb]

theorem ServiceSound.step {event : ServiceEvent F} (sound : ServiceSound settings service)
    (step : ServiceStep settings service event service') : ServiceSound settings service' := by
  cases step with
  | @store _ occurrence disk step =>
      refine ⟨sound.store.step step, ?_, sound.columns⟩
      have same : disk.db.schemaMigrations = service.disk.db.schemaMigrations :=
        StoreStep.ledger sound.store sound.ledger step
      change LedgerSettled settings disk.db.schemaMigrations
      rw [same]
      exact sound.ledger
  | audit _ call =>
      have only : TrailOnly service.tables.store.db
          (call.after settings service.tables.store).db :=
        AuditCall.after_trailOnly call service.tables.store
      refine ⟨sound.store.trailOnly only, ?_, sound.columns⟩
      change LedgerSettled settings (call.after settings service.tables.store).db.schemaMigrations
      rw [only.ledger]
      exact sound.ledger
  | external _ tenants registry =>
      exact ⟨sound.store.trailOnly ⟨tenants, service.tables.store.db.auditEvents, rfl⟩, sound.ledger,
        sound.columns⟩
  | start _ draw =>
      rw [sound.settled.fixed]
      exact sound

theorem ServiceReachable.sound (reachable : ServiceReachable F settings service) :
    ServiceSound settings service := by
  obtain ⟨draw, past, trace⟩ := reachable
  exact trace.invariant (P := ServiceSound settings) (fun _ _ _ sound step => sound.step step)
    (ServiceSound.fresh F settings draw)

/-- A start changes nothing that a start has left, in any reachable state and from any
older layout; a start that is refused changes no row that was there. -/
theorem initialize_idempotent (F : Type) [FloatFormat F] (settings : Settings) :
    (∀ service, ServiceReachable F settings service → ∀ draws : List InitializeDraw,
      initializeAgain F settings draws service.tables =
        (service.tables, draws.map (fun _ => .ok ()))) ∧
    (∀ draw file tables, initializeFile F settings draw file = (tables, .ok ()) →
      ∀ draws : List InitializeDraw,
        initializeAgain F settings draws tables = (tables, draws.map (fun _ => .ok ()))) ∧
    (∀ draw file, (ForeignLedger settings (file.schemaMigrations.getD []) ∨
        Ownerless file.createTables.store.db) →
      ∃ e, (initializeFile F settings draw file).2 = .error e) ∧
    ∀ draw file e, (initializeFile F settings draw file).2 = .error e →
      RowsKept file (initializeFile F settings draw file).1.file := by
  refine ⟨?_, ?_, ?_, ?_⟩
  · intro service reachable draws
    exact reachable.sound.settled.again draws
  · intro draw file tables done draws
    exact (initializeFile_settles done).again draws
  · intro draw file refused
    exact initializeFile_refused refused
  · intro draw file e failed
    exact initializeFile_error failed

end Runs

/-! ### A file of the first release -/

/-- No owners, no current versions, no grants, no ledger. -/
def firstReleaseFile : StoreFile :=
  { StoreFile.empty with
    tenants := some [⟨"tenant-a", "now"⟩]
    artifacts := some [⟨"art_old", "tenant-a", none, "old.txt", "text/plain", none, "now"⟩]
    versions := some [⟨"ver_old", "tenant-a", "art_old", none, "missing", "text/plain", 3,
      "legacy-owner", "seed", "\x7b\x7d", "now"⟩]
    layout := ⟨false, false, false, false, false⟩ }

/-- The first start gives the artifact its owner, its version and three grants. -/
example : (initializeFile Empty Settings.standard InitializeDraw.epoch firstReleaseFile).1.store.db.artifacts =
    [⟨"art_old", "tenant-a", some "legacy-owner", "old.txt", "text/plain", some "ver_old", "now"⟩] := by
  decide

theorem firstRelease_started :
    (initializeFile Empty Settings.standard InitializeDraw.epoch firstReleaseFile).2 = .ok () := by
  rcases initializeFile_cases Empty Settings.standard InitializeDraw.epoch firstReleaseFile with
    ⟨tables, same, _⟩ | ⟨e, same⟩
  · rw [same]
  · have none : (initializeFile Empty Settings.standard InitializeDraw.epoch
        firstReleaseFile).2.toBool = true := by
      decide
    rw [same] at none
    cases none

/-- What it leaves stays through two more starts. -/
theorem initialize_idempotent_firstRelease :
    ∃ tables, initializeFile Empty Settings.standard InitializeDraw.epoch firstReleaseFile =
        (tables, .ok ()) ∧
      initializeAgain Empty Settings.standard [InitializeDraw.epoch, InitializeDraw.epoch] tables =
        (tables, [.ok (), .ok ()]) := by
  refine ⟨(initializeFile Empty Settings.standard InitializeDraw.epoch firstReleaseFile).1, ?_, ?_⟩
  · exact Prod.ext rfl firstRelease_started
  · exact (initialize_idempotent Empty Settings.standard).2.1 InitializeDraw.epoch firstReleaseFile _
      (Prod.ext rfl firstRelease_started) [InitializeDraw.epoch, InitializeDraw.epoch]

end FolioLattice.Store
