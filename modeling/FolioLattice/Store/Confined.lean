/-
What a call may change: rows of its own tenant, and of these the artifacts, edges and
grants that the permissions of its actor cover.
-/

import FolioLattice.External.Registration
import FolioLattice.Relational.Unchanged
import FolioLattice.Store.Startup

namespace FolioLattice.Store

open FolioLattice.Text FolioLattice.Data FolioLattice.Relational FolioLattice.Audit
open FolioLattice.External (Registry Caller Registration RegisterDraw RevocationDraw
  registerExternalConnection revokeExternalConnection ConnectionRow ExternalAuditRow)
open FolioLattice.Concurrency
open FolioLattice.Effects (except_bind_ok except_map_ok except_mapM_ok)

variable {F : Type} [FloatFormat F]

/-! ### Calls and their callers -/

/-- Calls that write to the tables. -/
inductive Mutation (F : Type) where
  | store (call : Call F)
  | audit (call : AuditCall F)
  | register (draw : RegisterDraw) (request : Registration)
  | revokeConnection (draw : RevocationDraw) (caller : Caller) (reason : String)

/-- The tenant of a call, and the actor whose permissions count.  A start has neither. -/
def Call.caller : Call F → Option (String × Option String)
  | .create _ request => some (request.tenantId, some request.actor)
  | .write _ request => some (request.tenantId, request.requestActor)
  | .link _ request => some (request.tenantId, request.actor)
  | .share _ request =>
      some (request.tenantId, request.authorizationActor.resolve request.actor)
  | .revoke _ request =>
      some (request.tenantId, request.authorizationActor.resolve request.actor)
  | .restart _ => none

/-- A purge has no caller. -/
def auditCaller : AuditCall F → Option (String × Option String)
  | .record _ _ request => some (request.tenantId, some request.actorId)
  | .exported _ query => some (query.tenantId, some query.actor)
  | .hold _ _ tenantId actor _ _ => some (tenantId, some actor)
  | .purge _ _ _ => none

def Mutation.caller : Mutation F → Option (String × Option String)
  | .store call => call.caller
  | .audit call => auditCaller call
  | .register _ request => some (request.tenantId, some request.actor)
  | .revokeConnection _ caller _ => some (caller.tenantId, some caller.actor)

/-- The state after a call: one that raises is rolled back, but for files. -/
def Mutation.after (settings : Settings) (service : Service) : Mutation F → Service
  | .store call =>
      let disk := (perform settings call service.disk).1
      ⟨service.tables.withDb disk.db, disk.files⟩
  | .audit call =>
      ⟨{ service.tables with store := call.after settings service.tables.store }, service.files⟩
  | .register draw request =>
      match registerExternalConnection F draw request service.tables.store.db
          service.tables.registry with
      | .ok (db, registry) =>
          ⟨{ service.tables.withDb db with registry := registry }, service.files⟩
      | .error _ => service
  | .revokeConnection draw caller reason =>
      match revokeExternalConnection F draw caller reason service.tables.registry with
      | .ok registry => ⟨{ service.tables with registry := registry }, service.files⟩
      | .error _ => service

/-! ### What may change -/

/-- The rows of other tenants are the same rows in every table of the store. -/
structure TenantOnly (tenantId : String) (db db' : Database) : Prop where
  tenants : Unchanged (fun row => row.id ≠ tenantId) db.tenants db'.tenants
  artifacts : Unchanged (fun row => row.tenantId ≠ tenantId) db.artifacts db'.artifacts
  versions : Unchanged (fun row => row.tenantId ≠ tenantId) db.versions db'.versions
  chunks : Unchanged (fun row => row.tenantId ≠ tenantId) db.chunks db'.chunks
  chunkFts : Unchanged (fun row => row.tenantId ≠ tenantId) db.chunkFts db'.chunkFts
  chunkSubstringFts :
    Unchanged (fun row => row.tenantId ≠ tenantId) db.chunkSubstringFts db'.chunkSubstringFts
  edges : Unchanged (fun row => row.tenantId ≠ tenantId) db.edges db'.edges
  aclGrants : Unchanged (fun row => row.tenantId ≠ tenantId) db.aclGrants db'.aclGrants
  memberships : db'.oidcMemberships = db.oidcMemberships
  auditEvents : Unchanged (fun row => row.tenantId ≠ tenantId) db.auditEvents db'.auditEvents
  schemaMigrations : db'.schemaMigrations = db.schemaMigrations

/-- A row that is there before the call changes, and a row that is about it comes, only with
the actor's permission on it as it then is. -/
structure Licensed (tenantId actor : String) (db db' : Database) : Prop where
  artifacts : ∀ artifact ∈ db.artifacts, artifact ∈ db'.artifacts ∨
    (artifact.tenantId = tenantId ∧ db.permits artifact actor .write = true)
  edges : ∀ edge ∈ db'.edges, edge ∈ db.edges ∨
    ∀ artifactId ∈ [edge.sourceArtifactId, edge.targetArtifactId], ∃ artifact ∈ db.artifacts,
      artifact.id = artifactId ∧ artifact.tenantId = tenantId ∧
        db.permits artifact actor .write = true
  grants : ∀ artifact ∈ db.artifacts,
    Unchanged (fun grant => grant.artifactId = artifact.id) db.aclGrants db'.aclGrants ∨
      (artifact.tenantId = tenantId ∧ db.permits artifact actor .share = true)

/-- The service changes within one tenant and as the actor may. -/
structure Confined (tenantId actor : String) (tables tables' : ServiceTables) : Prop where
  store : TenantOnly tenantId tables.store.db tables'.store.db
  exports : Unchanged (fun row => row.tenantId ≠ tenantId) tables.store.exports tables'.store.exports
  connections :
    Unchanged (fun row => row.tenantId ≠ tenantId) tables.registry.connections
      tables'.registry.connections
  externalAudit :
    Unchanged (fun row => row.tenantId ≠ tenantId) tables.registry.audit tables'.registry.audit
  licensed : Licensed tenantId actor tables.store.db tables'.store.db

section Parts

variable {settings : Settings} {tenantId actor : String} {db mid db' : Database}

theorem TenantOnly.refl (tenantId : String) (db : Database) : TenantOnly tenantId db db :=
  ⟨.refl _ _, .refl _ _, .refl _ _, .refl _ _, .refl _ _, .refl _ _, .refl _ _, .refl _ _, rfl,
    .refl _ _, rfl⟩

theorem TenantOnly.trans (first : TenantOnly tenantId db mid)
    (second : TenantOnly tenantId mid db') : TenantOnly tenantId db db' where
  tenants := first.tenants.trans second.tenants
  artifacts := first.artifacts.trans second.artifacts
  versions := first.versions.trans second.versions
  chunks := first.chunks.trans second.chunks
  chunkFts := first.chunkFts.trans second.chunkFts
  chunkSubstringFts := first.chunkSubstringFts.trans second.chunkSubstringFts
  edges := first.edges.trans second.edges
  aclGrants := first.aclGrants.trans second.aclGrants
  memberships := second.memberships.trans first.memberships
  auditEvents := first.auditEvents.trans second.auditEvents
  schemaMigrations := second.schemaMigrations.trans first.schemaMigrations

/-- Where the artifacts, edges and grants stay, no permission is needed. -/
theorem Licensed.of_same (artifacts : db'.artifacts = db.artifacts) (edges : db'.edges = db.edges)
    (grants : db'.aclGrants = db.aclGrants) : Licensed tenantId actor db db' where
  artifacts := by
    intro artifact member
    rw [artifacts]
    exact Or.inl member
  edges := by
    intro edge member
    rw [edges] at member
    exact Or.inl member
  grants := fun _ _ => Or.inl (.of_eq grants)

theorem Confined.refl (tenantId actor : String) (tables : ServiceTables) :
    Confined tenantId actor tables tables :=
  ⟨.refl _ _, .refl _ _, .refl _ _, .refl _ _, .of_same rfl rfl rfl⟩

end Parts

section StoreCalls

variable {settings : Settings} {tenantId actor : String} {db db' : Database}

end StoreCalls

/-! ### Calls of the trail -/

section TrailCalls

variable {settings : Settings} {tenantId actor : String} {db db' : Database}

theorem TrailOnly.licensed (only : TrailOnly db db') : Licensed tenantId actor db db' := by
  obtain ⟨tenants, events, isDb⟩ := only
  rw [isDb]
  exact .of_same rfl rfl rfl

end TrailCalls

/-! ### Calls of the registry -/

section RegistryCalls

variable {tenantId : String} {registry registry' : Registry}

end RegistryCalls

/-! ### Every call -/

end FolioLattice.Store
